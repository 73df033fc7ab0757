import PrecheckLoad.Proofs.Pattern.Composition

/-!
# What a request claims

A layer that claims an identity sets one header to it, and maybe the user agent to something else.
Layers set headers one for each name. The type of the content is no layer's: it stands in front of
all their headers, and what is looked up under its name is always that. So the claim is carried by
its header, one among headers of different names, unless that is named like one of these two.
-/
namespace PrecheckLoad

/-- What a layer may claim for a buyer: that he is who he is, or someone with a number. -/
inductive Spoof.Claims (s : Spoof) (identity : String) : String → Prop
  | matching (mode : s.mode = .matching) : Claims s identity identity
  | independent (n : Nat) (mode : s.mode = .independent) (below : n < s.max.toNat) :
    Claims s identity (s.lead ++ toString n)

variable {s : Spoof} {c : Context} {identity claimed : String} {d e : Draft}

theorem Spoof.claims_of_claim (made : s.claim c identity = .ok claimed) :
    s.Claims identity claimed := by
  unfold Spoof.claim at made
  cases mode : s.mode with
  | matching =>
    rw [mode] at made
    cases made
    exact .matching mode
  | independent =>
    rw [mode] at made
    obtain ⟨n, drawn, made⟩ := bind_eq_ok.mp made
    cases made
    have some_number : (0 : UInt64) < s.max := by
      by_contra none
      rw [drawNumber, Random.draw, if_neg none] at drawn
      cases drawn
    obtain ⟨m, same, -, below⟩ := drawNumber_in_range c .spoof some_number
    rw [drawn] at same
    cases same
    exact .independent n mode below

section Kept

variable {P : Headers → Prop} {f : IdentityFormat} {l : Profile}

theorem setAgent_keeps (agent : ∀ hs a, P hs → P (hs.set "User-Agent" a)) (a : Option String)
    (holds : P d.headers) : P (setAgent a d).headers := by
  cases a with
  | none => exact holds
  | some a => exact agent _ a holds

/-- What is kept as the user agent and the header of a claim are set is kept by a layer. -/
theorem Profile.apply_keeps (agent : ∀ hs a, P hs → P (hs.set "User-Agent" a))
    (claim : ∀ s, l = .spoofedHeader s → ∀ hs v, P hs → P (hs.set s.header v))
    (applied : l.apply f c d = .ok e) (holds : P d.headers) : P e.headers := by
  cases l with
  | uniformRandom r =>
    obtain ⟨n, -, made⟩ := bind_eq_ok.mp applied
    cases made
    split
    · exact agent _ _ holds
    · exact holds
  | fixedIdentity identity =>
    cases applied
    exact holds
  | duplicate period =>
    obtain ⟨again, -, made⟩ := bind_eq_ok.mp applied
    cases made
    cases again <;> exact holds
  | forcedFailure x =>
    obtain ⟨selected, -, made⟩ := bind_eq_ok.mp applied
    cases made
    cases selected <;> exact holds
  | spoofedHeader s =>
    obtain ⟨claimed, -, made⟩ := bind_eq_ok.mp applied
    cases made
    have claimed : P (d.setHeader s.header claimed).headers := claim s rfl _ _ holds
    have passed := setAgent_keeps agent s.userAgent claimed
    split <;> exact passed

/-- And so it is by layers one after the other. -/
theorem Pattern.foldlM_keeps {ls : List Profile}
    (agent : ∀ hs a, P hs → P (hs.set "User-Agent" a))
    (claim : ∀ s, .spoofedHeader s ∈ ls → ∀ hs v, P hs → P (hs.set s.header v))
    (applied : ls.foldlM (fun d l => l.apply f c d) d = .ok e) (holds : P d.headers) :
    P e.headers := by
  induction ls generalizing d with
  | nil =>
    cases applied
    exact holds
  | cons l ls ih =>
    obtain ⟨d', first, later⟩ := bind_eq_ok.mp applied
    have passed : P d'.headers := by
      refine Profile.apply_keeps agent ?_ first holds
      rintro s rfl
      exact claim s List.mem_cons_self
    exact ih (fun s mem => claim s (List.mem_cons_of_mem l mem)) later passed

theorem Pattern.draft_keeps {p : Pattern} (agent : ∀ hs a, P hs → P (hs.set "User-Agent" a))
    (claim : ∀ s, .spoofedHeader s ∈ p.profiles → ∀ hs v, P hs → P (hs.set s.header v))
    (start : P []) (drafted : p.draft c = .ok d) : P d.headers :=
  foldlM_keeps agent (fun s mem => claim s (mem_layers.mp mem)) drafted start

end Kept

namespace Pattern

variable {p : Pattern}

theorem oneEach_draft (drafted : p.draft c = .ok d) : d.headers.OneEach :=
  draft_keeps (fun _ a each => each.set _ a) (fun _ _ _ v each => each.set _ v)
    Headers.oneEach_nil drafted

/-- Before anything is claimed no header can be the type of the content. -/
theorem untyped_of_unclaimed (drafted : p.unclaimed.draft c = .ok d) :
    d.headers.find? "Content-Type" = none := by
  refine draft_keeps (P := fun hs => hs.find? "Content-Type" = none) ?_ ?_ rfl drafted
  · intro hs a none
    rw [Headers.find?_set_other hs (by decide), none]
  · intro s claims
    have first := (List.mem_filter.mp claims).2
    exact absurd rfl (of_decide_eq_true first)

/-- A claim comes last: what it adds to a draft of the other layers. -/
theorem exists_spoofed (wf : WellFormed p.profiles) (spoofs : .spoofedHeader s ∈ p.profiles)
    (drafted : p.draft c = .ok d) : ∃ e claimed, p.unclaimed.draft c = .ok e ∧
      s.claim c d.identity = .ok claimed ∧
      d.headers = (setAgent s.userAgent (e.setHeader s.header claimed)).headers := by
  rw [draft_eq, ← unclaimed_draft] at drafted
  obtain ⟨e, before, last⟩ := bind_eq_ok.mp drafted
  rcases step_cases wf c (k := 2) (by omega) with ⟨absent, -⟩ | ⟨l, -, -, only, step⟩
  · exact absurd rfl (absent _ spoofs)
  · obtain rfl := only _ spoofs rfl
    rw [step] at last
    obtain ⟨claimed, made, last⟩ := bind_eq_ok.mp last
    cases last
    refine ⟨e, claimed, before, ?_, strip_headers _ _⟩
    rw [strip_identity, setAgent_identity]
    exact made

theorem find?_setAgent (agent : Option String) (d : Draft) (name : String) :
    (setAgent agent d).headers.find? name =
      if Text.sameName "User-Agent" name then agent.or (d.headers.find? name)
      else d.headers.find? name := by
  cases agent with
  | none => simp [setAgent]
  | some a =>
    split
    · next same => exact Headers.find?_set_self _ same
    · next other => exact Headers.find?_set_other _ (Bool.eq_false_iff.mpr other)

/-- The names of a request differ unless a layer has set the type of the content too. -/
theorem oneEach_request_iff (drafted : p.draft c = .ok d) (url : String) :
    (Draft.request p url d).headers.OneEach ↔ d.headers.find? "Content-Type" = none := by
  rw [Draft.request, Headers.oneEach_cons_iff]
  exact and_iff_left (oneEach_draft drafted)

section Spoofed

variable (headers : d.headers = (setAgent s.userAgent (e.setHeader s.header claimed)).headers)

include headers

theorem untyped_iff (before : p.unclaimed.draft c = .ok e) :
    d.headers.find? "Content-Type" = none ↔ Text.sameName "Content-Type" s.header = false := by
  have agentless : Text.sameName "User-Agent" "Content-Type" = false := by decide
  rw [headers, find?_setAgent, agentless, if_neg Bool.false_ne_true, Draft.setHeader,
    Text.sameName_comm]
  cases same : Text.sameName s.header "Content-Type" with
  | true => simp [Headers.find?_set_self _ same]
  | false => simp [Headers.find?_set_other _ same, untyped_of_unclaimed before]

/-- A made up user agent is set after the claim, and the type of the content stands before it. -/
theorem header_claim_iff (p : Pattern) (url : String) :
    (Draft.request p url d).header s.header = some claimed ↔
      (Text.sameName "Content-Type" s.header = true → claimed = "application/json") ∧
      (Text.sameName "User-Agent" s.header = true → ∀ a ∈ s.userAgent, a = claimed) := by
  cases same : Text.sameName "Content-Type" s.header with
  | true =>
    have apart : Text.sameName "User-Agent" s.header = false := by
      rw [Text.sameName_comm, ← Text.sameName_congr same]
      decide
    rw [request_header, if_pos same, apart]
    simp [eq_comm]
  | false =>
    rw [request_header, same, if_neg Bool.false_ne_true, headers, find?_setAgent, Draft.setHeader,
      Headers.find?_set_self _ (Text.sameName_self s.header)]
    cases Text.sameName "User-Agent" s.header with
    | false => simp
    | true => cases s.userAgent <;> simp

end Spoofed

/-- What an accepted pattern sends of a claim: one that its layer may make, beside the type of the
content, which is found to be JSON under every spelling of its name. The names of the headers all
differ exactly if the claim is not made under one of these spellings. It is found under its own name
exactly if what else is sent under that name, if anything, is the same. -/
theorem claim_carried_iff (p : Pattern) (s : Spoof) (accepted : p.validate = .ok ())
    (spoofs : .spoofedHeader s ∈ p.profiles) (c : Context) (url : String) :
    ∃ d r claimed, p.draft c = .ok d ∧ p.Composed c d ∧ p.build c url = .ok r ∧
      s.claim c d.identity = .ok claimed ∧ s.Claims d.identity claimed ∧
      (∀ name, Text.sameName "Content-Type" name = true →
        r.header name = some "application/json") ∧
      (r.headers.OneEach ↔ Text.sameName "Content-Type" s.header = false) ∧
      (r.header s.header = some claimed ↔
        (Text.sameName "Content-Type" s.header = true → claimed = "application/json") ∧
        (Text.sameName "User-Agent" s.header = true → ∀ a ∈ s.userAgent, a = claimed)) := by
  have wf := (validate_eq_ok.mp accepted).2.2
  obtain ⟨d, drafted, composed⟩ := exists_composed wf c
  obtain ⟨e, claimed, before, made, headers⟩ := exists_spoofed wf spoofs drafted
  have typed : ∀ name, Text.sameName "Content-Type" name = true →
      (Draft.request p url d).header name = some "application/json" :=
    fun name same => by rw [request_header, if_pos same]
  have each : (Draft.request p url d).headers.OneEach ↔
      Text.sameName "Content-Type" s.header = false :=
    (oneEach_request_iff drafted url).trans (untyped_iff headers before)
  exact ⟨d, _, claimed, drafted, composed, build_of_draft url drafted, made,
    Spoof.claims_of_claim made, typed, each, header_claim_iff headers p url⟩

/-- Bots whose claims take the place of the number that they show. -/
def overclaimed : Pattern where
  profiles := [
    .uniformRandom { lead := "bot_", max := 100, botAgent := true },
    .spoofedHeader { header := "user-agent", max := 10 }]

theorem claim_carried_iff_of_overclaimed : overclaimed.validate = .ok () ∧
    ∃ r claimed n, overclaimed.build ⟨1, 7, 99⟩ "http://shop" = .ok r ∧
      r.header "user-agent" = some claimed ∧ claimed = "spoof_" ++ toString n ∧ n < 10 ∧
      r.header "CONTENT-TYPE" = some "application/json" ∧ r.headers.OneEach := by
  have accepted : overclaimed.validate = .ok () := rfl
  obtain ⟨d, r, claimed, -, -, built, -, claims, type, each, carried⟩ :=
    claim_carried_iff overclaimed { header := "user-agent", max := 10 } accepted (by decide)
      ⟨1, 7, 99⟩ "http://shop"
  have found : r.header "user-agent" = some claimed :=
    carried.mpr ⟨fun same => absurd same (by decide), fun _ a mem => nomatch mem⟩
  cases claims with
  | matching mode => cases mode
  | independent n mode below =>
    exact ⟨accepted, r, _, n, built, found, rfl, below, type _ (by decide), each.mpr (by decide)⟩

/-- A claim and a made up user agent for one header. -/
def contested : Pattern where
  profiles := [.spoofedHeader {
    header := "User-Agent", mode := .matching, userAgent := some "FakeBrowser/9.9" }]

/-- A claim for the header that tells the type of the content. -/
def mistyped : Pattern where
  profiles := [.fixedIdentity "application/json",
    .spoofedHeader { header := "content-type", mode := .matching }]

/-- Both are accepted. The one does not carry its claim, the other has two headers of one name. -/
theorem claim_lost_among_headers :
    (contested.validate = .ok () ∧ ∃ d r, contested.draft ⟨1, 1, 1⟩ = .ok d ∧
      contested.build ⟨1, 1, 1⟩ "http://shop" = .ok r ∧
      r.header "User-Agent" ≠ some d.identity) ∧
    mistyped.validate = .ok () ∧ ∃ r, mistyped.build ⟨1, 1, 1⟩ "http://shop" = .ok r ∧
      ¬ r.headers.OneEach := by
  have faked : contested.draft ⟨1, 1, 1⟩ = .ok
      { identity := "user-1-1", headers := [("User-Agent", "FakeBrowser/9.9")] } := by decide
  have typed : mistyped.draft ⟨1, 1, 1⟩ = .ok
      { identity := "application/json", headers := [("content-type", "application/json")] } := by
    decide
  refine ⟨⟨rfl, _, _, faked, build_of_draft _ faked, ?_⟩, rfl, _, build_of_draft _ typed, ?_⟩
  · rw [request_header]
    decide
  · intro each
    have first := (Headers.oneEach_cons_iff.mp each).1
    exact absurd first (by decide)

end Pattern
end PrecheckLoad
