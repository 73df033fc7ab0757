import PrecheckLoad.Proofs.Config.Validation
import PrecheckLoad.Proofs.Url.Parts

/-!
# The endpoint below the base address

Requests go to the text of the base address, without slashes at its end, and then the path of the
endpoint. Validation reads the base address by itself: blanks and controls around it do not count,
and it may have a query and a fragment. Where it has none of these, nothing gets between the two,
and the endpoint is in the path of an address of the same scheme and host. Where it has, the path of
the endpoint ends up in the query or the fragment, or behind what was passed over.
-/
namespace PrecheckLoad

open Text

/-- A text that can be gone on from: there is no query in it, no fragment, and no blank or control
at its end. -/
structure Url.Bare (text : String) : Prop where
  noQuery : '?' ∉ text.toList
  noFragment : '#' ∉ text.toList
  unpadded : ∀ x ∈ text.toList.getLast?, 32 < x.toNat

namespace Config

/-- The path of the endpoint follows the base address without anything in between. It stands in the
path of the address that requests go to, whose scheme and host are those that were validated. -/
structure ReachesPrecheck (c : Config) : Prop where
  joined : Url.GoesOn precheckPath.toList (Url.core c.baseUrl) (Url.core c.precheckUrl)
  address : Url.Address.ofText c.precheckUrl = Url.Address.ofText c.baseUrl
  below : ∃ p q : Url.Parts, p.Of c.baseUrl ∧ q.Of c.precheckUrl ∧ q.Below p precheckPath.toList

variable {c : Config}

theorem precheckPath_plain :
    ∀ x ∈ precheckPath.toList, Url.counts x = true ∧ x ≠ '?' ∧ x ≠ '#' := by
  have all : precheckPath.toList.all
      (fun x => Url.counts x && (x != '?' && x != '#')) = true := by decide
  simpa using all

theorem toList_precheckUrl (c : Config) :
    c.precheckUrl.toList = (dropTrailing '/' c.baseUrl).toList ++ precheckPath.toList := by
  rw [precheckUrl, String.toList_append]

theorem core_precheckUrl (c : Config) : Url.core c.precheckUrl =
    (dropTrailing '/' c.baseUrl).toList.dropWhile (fun x => x.toNat ≤ 32) ++
      precheckPath.toList := by
  have front : c.precheckUrl.toList.dropWhile (fun x => x.toNat ≤ 32) =
      (dropTrailing '/' c.baseUrl).toList.dropWhile (fun x => x.toNat ≤ 32) ++
        precheckPath.toList := by
    rw [toList_precheckUrl, dropWhile_append_kept (by decide)]
  rw [← front]
  refine (stripChars_eq_dropWhile_iff ?_).mpr ?_
  · rw [front]
    exact List.append_ne_nil_of_right_ne_nil _ (by decide)
  · have last : precheckPath.toList.getLast? = some 'k' := by decide
    rw [toList_precheckUrl, List.getLast?_append, last, Option.some_or]
    rintro x ⟨⟩
    decide

/-- The slashes that are dropped stand behind the blanks in front. -/
theorem exists_slashes (c : Config) : ∃ slashes, (∀ x ∈ slashes, x = '/') ∧
    c.baseUrl.toList.dropWhile (fun x => x.toNat ≤ 32) =
      (dropTrailing '/' c.baseUrl).toList.dropWhile (fun x => x.toNat ≤ 32) ++ slashes := by
  obtain ⟨slashes, slash, whole⟩ := exists_dropTrailing '/' c.baseUrl
  have kept : slashes.dropWhile (fun x => x.toNat ≤ 32) = slashes := by
    rw [List.dropWhile_eq_self_iff]
    intro some_slash
    rw [slash _ (List.getElem_mem some_slash)]
    decide
  exact ⟨slashes, slash, by rw [whole, dropWhile_append_kept kept]⟩

/-- Nothing is in between exactly if the base address does not end in what is passed over. -/
theorem joined_iff (read : Url.core c.baseUrl ≠ []) :
    Url.GoesOn precheckPath.toList (Url.core c.baseUrl) (Url.core c.precheckUrl) ↔
      ∀ x ∈ c.baseUrl.toList.getLast?, 32 < x.toNat := by
  obtain ⟨e, slash, whole_left⟩ := exists_slashes c
  obtain ⟨b, blank, left⟩ := exists_stripped_end (fun x => x.toNat ≤ 32) c.baseUrl.toList
  change _ = Url.core c.baseUrl ++ b at left
  have some_left : c.baseUrl.toList.dropWhile (fun x => x.toNat ≤ 32) ≠ [] := by
    rw [left]
    exact List.append_ne_nil_of_left_ne_nil read b
  have ends := stripChars_eq_dropWhile_iff some_left
  change Url.core c.baseUrl = _ ↔ _ at ends
  simp only [decide_eq_false_iff_not, Nat.not_le] at ends
  rw [← ends, whole_left, core_precheckUrl]
  constructor
  · rintro ⟨front, slashes, base, -, url⟩
    obtain rfl := List.append_cancel_right url
    -- Whatever is stripped of the end is among the slashes that are dropped, but none is stripped.
    have dropped : e = slashes ++ b := by
      rw [whole_left, base, List.append_assoc] at left
      exact List.append_cancel_left left
    have none : b = [] := by
      refine List.eq_nil_iff_forall_not_mem.mpr fun x mem => ?_
      have padding := blank x mem
      rw [slash x (by rw [dropped]; exact List.mem_append_right _ mem)] at padding
      cases padding
    rw [base, dropped, none, List.append_nil]
  · exact fun base => ⟨_, e, base, slash, rfl⟩

theorem core_ne_nil (valid : Url.validate c.baseUrl = .ok ()) : Url.core c.baseUrl ≠ [] := by
  obtain ⟨p, of, -⟩ := Url.exists_parts valid
  intro none
  rw [Url.Parts.Of, Url.clean_eq, none] at of
  simp [Url.Parts.text, Url.Parts.origin] at of

theorem reachesPrecheck_of_bare (valid : Url.validate c.baseUrl = .ok ())
    (bare : Url.Bare c.baseUrl) : c.ReachesPrecheck := by
  obtain ⟨p, of, web⟩ := Url.exists_parts valid
  have joined := (joined_iff (core_ne_nil valid)).mpr bare.unpadded
  obtain ⟨front, slashes, whole, slash, goes⟩ :=
    joined.clean fun x mem => (precheckPath_plain x mem).1
  rw [of] at whole
  have none := (Url.Parts.rest_eq_nil_iff of).mpr ⟨bare.noQuery, bare.noFragment⟩
  obtain ⟨q, below, text⟩ := p.exists_below none precheckPath.toList (by decide)
    (fun x mem => (precheckPath_plain x mem).2) whole slash
  have of' : q.Of c.precheckUrl := goes.trans text.symm
  have named : q.schemeName = p.schemeName := by
    rw [Url.Parts.schemeName, below.scheme, Url.Parts.schemeName]
  have address : Url.Address.ofText c.precheckUrl = Url.Address.ofText c.baseUrl := by
    rw [Url.Parts.ofText_eq of web, Url.Parts.ofText_eq of' (named ▸ web), named, below.authority]
  exact ⟨joined, address, p, q, of, of', below⟩

theorem bare_of_reachesPrecheck (valid : Url.validate c.baseUrl = .ok ())
    (reaches : c.ReachesPrecheck) : Url.Bare c.baseUrl := by
  obtain ⟨p, q, -, of, below⟩ := reaches.below
  obtain ⟨noQuery, noFragment⟩ := (Url.Parts.rest_eq_nil_iff of).mp below.rest
  have sent : ∀ {x : Char}, x ≠ '/' → x ∉ c.precheckUrl.toList → x ∉ c.baseUrl.toList := by
    intro x other absent mem
    obtain ⟨e, slash, whole⟩ := exists_dropTrailing '/' c.baseUrl
    rw [whole] at mem
    rw [toList_precheckUrl] at absent
    rcases List.mem_append.mp mem with mem | mem
    · exact absent (List.mem_append_left _ mem)
    · exact other (slash x mem)
  exact ⟨sent (by decide) noQuery, sent (by decide) noFragment,
    (joined_iff (core_ne_nil valid)).mp reaches.joined⟩

/-- The base address of a validated run has its parts in one way only, and requests reach the
endpoint exactly if it is bare. -/
theorem reaches_precheck_iff (c : Config) (valid : c.validate = .ok ()) :
    (∃! p : Url.Parts, p.Of c.baseUrl) ∧ (c.ReachesPrecheck ↔ Url.Bare c.baseUrl) := by
  have address := (validate_eq_ok.mp valid).address
  exact ⟨Url.existsUnique_parts address, bare_of_reachesPrecheck address,
    reachesPrecheck_of_bare address⟩

/-- A run against a service below a path, whose address begins with a blank. -/
def below : Config where
  name := "below"
  baseUrl := " HTTP://buyer@shop.example:8080/sale of\t2//"
  stages := [⟨.ofSeconds 1, 1⟩]

theorem reaches_precheck_of_below : below.validate = .ok () ∧
    below.precheckUrl = " HTTP://buyer@shop.example:8080/sale of\t2/flashsale/precheck" ∧
    below.ReachesPrecheck := by
  have valid : below.validate = .ok () := valid_of_isOk (by decide +kernel)
  refine ⟨valid, by decide, (reaches_precheck_iff below valid).2.mpr ⟨by decide, by decide, ?_⟩⟩
  rintro x ⟨⟩
  decide

/-- A run with a query in its base address. -/
def tagged : Config where
  name := "tagged"
  baseUrl := "http://localhost:3000?shop=1"
  stages := [⟨.ofSeconds 1, 1⟩]

/-- A run with a blank behind its base address. -/
def padded : Config where
  name := "padded"
  baseUrl := "http://localhost:3000 "
  stages := [⟨.ofSeconds 1, 1⟩]

/-- Both are accepted. The one sends its requests to the root of the service, with the endpoint in
the query; the other has no address to send them to. -/
theorem endpoint_missed :
    (tagged.validate = .ok () ∧
      tagged.precheckUrl = "http://localhost:3000?shop=1/flashsale/precheck" ∧
      ¬ tagged.ReachesPrecheck) ∧
    padded.validate = .ok () ∧ padded.precheckUrl = "http://localhost:3000 /flashsale/precheck" ∧
      Url.validate padded.precheckUrl = .error .invalidPort ∧ ¬ padded.ReachesPrecheck := by
  have tagged_valid : tagged.validate = .ok () := valid_of_isOk (by decide +kernel)
  have padded_valid : padded.validate = .ok () := valid_of_isOk (by decide +kernel)
  refine ⟨⟨tagged_valid, by decide, ?_⟩, padded_valid, by decide, by decide +kernel, ?_⟩
  · intro reaches
    have bare := bare_of_reachesPrecheck (validate_eq_ok.mp tagged_valid).address reaches
    exact absurd bare.noQuery (by decide)
  · intro reaches
    have bare := bare_of_reachesPrecheck (validate_eq_ok.mp padded_valid).address reaches
    exact absurd (bare.unpadded ' ' (by decide)) (by decide)

end Config
end PrecheckLoad
