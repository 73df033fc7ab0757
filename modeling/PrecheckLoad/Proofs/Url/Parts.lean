import Mathlib.Data.List.Basic
import PrecheckLoad.Proofs.Fallible
import PrecheckLoad.Proofs.Text.Parts
import PrecheckLoad.Url.Basic

/-!
# Parts of an address

An address of the web is written as a scheme, a colon and slashes, an authority, a path, and a query
with a fragment. Every text that is accepted as the address of a service is written so. Scheme and
authority are all that it is judged by.
-/
namespace PrecheckLoad.Url

open Text

/-- The parts of an address of the web, as they are written. -/
structure Parts where
  scheme : List Char
  slashes : List Char
  authority : List Char
  path : List Char
  /-- A query, a fragment, or both. -/
  rest : List Char
  scheme_begins : ∃ c ∈ scheme.head?, isLetter c = true
  scheme_chars : ∀ c ∈ scheme, isSchemeChar c = true
  slashes_chars : ∀ c ∈ slashes, SchemeKind.web.isSlash c = true
  authority_ne : authority ≠ []
  authority_chars : ∀ c ∈ authority, SchemeKind.web.endsAuthority c = false
  path_begins : ∀ c ∈ path.head?, SchemeKind.web.isSlash c = true
  path_chars : ∀ c ∈ path, c ≠ '?' ∧ c ≠ '#'
  rest_begins : ∀ c ∈ rest.head?, c = '?' ∨ c = '#'

namespace Parts

/-- What stands in front of the path. -/
def origin (p : Parts) : List Char :=
  p.scheme ++ ':' :: (p.slashes ++ p.authority)

def text (p : Parts) : List Char :=
  p.origin ++ (p.path ++ p.rest)

/-- Whether a text has these parts, once what does not count is removed. -/
def Of (p : Parts) (text : String) : Prop := clean text.toList = p.text

/-- The name of the scheme does not depend on case. -/
def schemeName (p : Parts) : String := String.ofList (p.scheme.map lowerChar)

end Parts

theorem isSchemeChar_of_isLetter {c : Char} (letter : isLetter c = true) :
    isSchemeChar c = true := by
  simp [isSchemeChar, letter]

theorem colon_ends (rest : List Char) :
    ∀ c ∈ (':' :: rest).head?, isSchemeChar c = false := by
  rintro c ⟨⟩
  rfl

theorem splitScheme?_append {scheme : List Char} (begins : ∃ c ∈ scheme.head?, isLetter c = true)
    (chars : ∀ c ∈ scheme, isSchemeChar c = true) (rest : List Char) :
    splitScheme? (scheme ++ ':' :: rest) = some (String.ofList (scheme.map lowerChar), rest) := by
  have taken := takeWhile_ended chars (colon_ends rest)
  have left := dropWhile_ended chars (colon_ends rest)
  obtain ⟨c, first, letter⟩ := begins
  obtain ⟨cs, rfl⟩ := List.head?_eq_some_iff.mp first
  rw [List.cons_append] at taken left ⊢
  simp only [splitScheme?, letter, if_true, taken, left]

theorem exists_of_splitScheme? {s rest : List Char} {name : String}
    (split : splitScheme? s = some (name, rest)) :
    ∃ scheme, s = scheme ++ ':' :: rest ∧ name = String.ofList (scheme.map lowerChar) ∧
      (∃ c ∈ scheme.head?, isLetter c = true) ∧ ∀ c ∈ scheme, isSchemeChar c = true := by
  cases s with
  | nil => cases split
  | cons c cs =>
    rw [splitScheme?] at split
    split at split
    · next letter =>
      split at split
      · next rest' left =>
        cases split
        refine ⟨(c :: cs).takeWhile isSchemeChar, ?_, rfl, ⟨c, ?_, letter⟩, ?_⟩
        · rw [← left, List.takeWhile_append_dropWhile]
        · rw [List.takeWhile_cons_of_pos (isSchemeChar_of_isLetter letter)]
          rfl
        · exact fun x mem => List.mem_takeWhile_imp mem
      · cases split
    · cases split

/-- What is behind an authority does not count for its host. -/
theorem readAuthority_append {a r : List Char}
    (chars : ∀ c ∈ a, SchemeKind.web.endsAuthority c = false)
    (begins : ∀ c ∈ r.head?, SchemeKind.web.endsAuthority c = true) :
    readAuthority .web (a ++ r) = readAuthority .web a := by
  have kept : ∀ c ∈ a, (!SchemeKind.web.endsAuthority c) = true := by simpa using chars
  have alone : a.takeWhile (fun c => !SchemeKind.web.endsAuthority c) = a :=
    List.takeWhile_eq_self_iff.mpr kept
  have taken : (a ++ r).takeWhile (fun c => !SchemeKind.web.endsAuthority c) = a :=
    takeWhile_ended kept (by simpa using begins)
  simp only [readAuthority, taken, alone, decide_true, Bool.true_or, Bool.and_true]

/-- No host, no service. -/
theorem authority_ne_nil {s name : List Char} (read : readAuthority .web s = .ok name) :
    s.takeWhile (fun c => !SchemeKind.web.endsAuthority c) ≠ [] := by
  intro none
  simp [readAuthority, none, splitUser, spanHost] at read

variable {text : String}

namespace Parts

variable {p : Parts}

theorem text_eq (p : Parts) :
    p.text = p.scheme ++ ':' :: (p.slashes ++ (p.authority ++ (p.path ++ p.rest))) := by
  simp [Parts.text, origin]

/-- A slash, a query or a fragment ends the authority. -/
theorem behind_begins (p : Parts) :
    ∀ c ∈ (p.path ++ p.rest).head?, SchemeKind.web.endsAuthority c = true := by
  intro c first
  cases path : p.path with
  | nil =>
    rw [path] at first
    rcases p.rest_begins c first with rfl | rfl <;> rfl
  | cons d ds =>
    rw [path] at first
    have slash : SchemeKind.web.isSlash c = true := p.path_begins c (by rw [path]; exact first)
    simp [SchemeKind.endsAuthority, slash]

/-- An authority is no slash. -/
theorem authority_begins (p : Parts) :
    ∀ c ∈ (p.authority ++ (p.path ++ p.rest)).head?, SchemeKind.web.isSlash c = false := by
  intro c first
  cases shape : p.authority with
  | nil => exact absurd shape p.authority_ne
  | cons d ds =>
    rw [shape] at first
    cases first
    have inside := p.authority_chars c (by rw [shape]; exact List.mem_cons_self)
    simp only [SchemeKind.endsAuthority, Bool.or_eq_false_iff] at inside
    exact inside.1.1

/-- A text has its parts in one way only. -/
theorem unique {p q : Parts} (same : p.text = q.text) : p = q := by
  rw [text_eq, text_eq] at same
  obtain ⟨scheme, same⟩ := cut_unique isSchemeChar p.scheme_chars (colon_ends _)
    q.scheme_chars (colon_ends _) same
  obtain ⟨slashes, same⟩ := cut_unique SchemeKind.web.isSlash p.slashes_chars p.authority_begins
    q.slashes_chars q.authority_begins (List.cons.inj same).2
  obtain ⟨authority, same⟩ := cut_unique (fun c => !SchemeKind.web.endsAuthority c)
    (by simpa using p.authority_chars) (by simpa using p.behind_begins)
    (by simpa using q.authority_chars) (by simpa using q.behind_begins) same
  obtain ⟨path, rest⟩ := cut_unique (fun c => c ≠ '?' && c ≠ '#')
    (by simpa using p.path_chars) (by simpa [Decidable.or_iff_not_imp_left] using p.rest_begins)
    (by simpa using q.path_chars) (by simpa [Decidable.or_iff_not_imp_left] using q.rest_begins)
    same
  cases p
  cases q
  cases scheme
  cases slashes
  cases authority
  cases path
  cases rest
  rfl

/-- An address is judged by its scheme and its authority. -/
theorem ofText_eq (of : p.Of text) (web : SchemeKind.of p.schemeName = .web) :
    Address.ofText text = (readAuthority .web p.authority >>= fun name =>
      pure ⟨p.schemeName, some name⟩) := by
  have split := splitScheme?_append p.scheme_begins p.scheme_chars
    (p.slashes ++ (p.authority ++ (p.path ++ p.rest)))
  rw [← text_eq, ← of] at split
  have kind : SchemeKind.of (String.ofList (p.scheme.map lowerChar)) = .web := web
  simp only [Address.ofText, split, pure_eq_ok, ok_bind, kind,
    dropWhile_ended p.slashes_chars p.authority_begins,
    readAuthority_append p.authority_chars p.behind_begins]
  rfl

end Parts

theorem of_web {scheme : String} (served : scheme = "http" ∨ scheme = "https") :
    SchemeKind.of scheme = .web := by
  rcases served with rfl | rfl <;> rfl

theorem exists_of_validate (valid : validate text = .ok ()) : ∃ a, Address.ofText text = .ok a ∧
    SchemeKind.of a.scheme = .web := by
  obtain ⟨a, read, served⟩ := bind_eq_ok.mp valid
  refine ⟨a, read, of_web ?_⟩
  by_contra unserved
  rw [not_or] at unserved
  rw [if_pos unserved] at served
  cases served

/-- An address is read from a scheme and what follows its colon. -/
theorem exists_split {a : Address} (read : Address.ofText text = .ok a)
    (web : SchemeKind.of a.scheme = .web) :
    ∃ rest name, splitScheme? (clean text.toList) = some (a.scheme, rest) ∧
      readAuthority .web (rest.dropWhile SchemeKind.web.isSlash) = .ok name := by
  rw [Address.ofText] at read
  cases split : splitScheme? (clean text.toList) with
  | none =>
    rw [split] at read
    cases read
  | some pair =>
    obtain ⟨scheme, rest⟩ := pair
    simp only [split, pure_eq_ok, ok_bind] at read
    cases kind : SchemeKind.of scheme with
    | web =>
      simp only [kind] at read
      obtain ⟨name, found, made⟩ := bind_eq_ok.mp read
      cases made
      exact ⟨rest, name, rfl, found⟩
    | file =>
      simp only [kind] at read
      obtain ⟨host, -, made⟩ := bind_eq_ok.mp read
      cases made
      cases kind.symm.trans web
    | other =>
      simp only [kind] at read
      have same : a.scheme = scheme := by
        split at read
        · obtain ⟨host, -, made⟩ := bind_eq_ok.mp read
          cases made
          rfl
        · cases read
          rfl
      rw [same, kind] at web
      cases web

theorem first_of_dropWhile {keep : Char → Bool} {s : List Char} {c : Char}
    (first : c ∈ (s.dropWhile keep).head?) : keep c = false := by
  have known := List.head?_dropWhile_not keep s
  rw [Option.mem_def.mp first] at known
  exact known

/-- What is accepted is an address of the web, in parts. -/
theorem exists_parts (valid : validate text = .ok ()) :
    ∃ p : Parts, p.Of text ∧ SchemeKind.of p.schemeName = .web := by
  obtain ⟨a, read, web⟩ := exists_of_validate valid
  obtain ⟨rest, name, split, found⟩ := exists_split read web
  obtain ⟨scheme, whole, named, begins, chars⟩ := exists_of_splitScheme? split
  let behind := (rest.dropWhile SchemeKind.web.isSlash).dropWhile
    fun c => !SchemeKind.web.endsAuthority c
  let p : Parts := {
    scheme
    slashes := rest.takeWhile SchemeKind.web.isSlash
    authority := (rest.dropWhile SchemeKind.web.isSlash).takeWhile
      fun c => !SchemeKind.web.endsAuthority c
    path := behind.takeWhile fun c => c ≠ '?' && c ≠ '#'
    rest := behind.dropWhile fun c => c ≠ '?' && c ≠ '#'
    scheme_begins := begins
    scheme_chars := chars
    slashes_chars := fun c mem => List.mem_takeWhile_imp mem
    authority_ne := authority_ne_nil found
    authority_chars := fun c mem => by simpa using List.mem_takeWhile_imp mem
    path_begins := by
      intro c first
      rw [List.head?_takeWhile, Option.mem_def, Option.filter_eq_some_iff] at first
      have ends := first_of_dropWhile first.1
      obtain ⟨noQuery, noFragment⟩ : c ≠ '?' ∧ c ≠ '#' := by simpa using first.2
      simpa [SchemeKind.endsAuthority, noQuery, noFragment] using ends
    path_chars := fun c mem => by simpa using List.mem_takeWhile_imp mem
    rest_begins := by
      intro c first
      have ends := first_of_dropWhile first
      simpa [Decidable.or_iff_not_imp_left] using ends }
  refine ⟨p, ?_, ?_⟩
  · rw [Parts.Of, whole, Parts.text_eq]
    simp only [p, behind, List.takeWhile_append_dropWhile]
  · rw [Parts.schemeName, ← named, web]

theorem existsUnique_parts (valid : validate text = .ok ()) : ∃! p : Parts, p.Of text := by
  obtain ⟨p, of, -⟩ := exists_parts valid
  exact ⟨p, of, fun q of' => Parts.unique (of'.symm.trans of)⟩

/-- Whether a text goes on from another, slashes at the end of that aside. -/
def GoesOn (more base url : List Char) : Prop :=
  ∃ front slashes, base = front ++ slashes ∧ (∀ c ∈ slashes, c = '/') ∧ url = front ++ more

/-- What is read of a text: what stands between the blanks and controls around it. -/
def core (text : String) : List Char :=
  stripChars (fun c => c.toNat ≤ 32) text.toList

/-- Tabs and line breaks do not count anywhere. -/
def counts (c : Char) : Bool := c ≠ '\t' ∧ c ≠ '\n' ∧ c ≠ '\r'

theorem clean_eq (text : String) : clean text.toList = (core text).filter counts := rfl

/-- What is joined stays so when what does not count is removed. -/
theorem GoesOn.clean {more base url : String}
    (joined : GoesOn more.toList (core base) (core url)) (kept : ∀ c ∈ more.toList, counts c) :
    GoesOn more.toList (Url.clean base.toList) (Url.clean url.toList) := by
  obtain ⟨front, slashes, whole, slash, goes⟩ := joined
  have slashes_kept : slashes.filter counts = slashes :=
    List.filter_eq_self.mpr fun c mem => by rw [slash c mem]; rfl
  refine ⟨front.filter counts, slashes, ?_, slash, ?_⟩
  · rw [clean_eq, whole, List.filter_append, slashes_kept]
  · rw [clean_eq, goes, List.filter_append, List.filter_eq_self.mpr kept]

theorem mem_clean_iff {c : Char} (above : 32 < c.toNat) :
    c ∈ clean text.toList ↔ c ∈ text.toList := by
  have kept : decide (c.toNat ≤ 32) = false := by simpa using above
  have inner : counts c = true := by
    refine decide_eq_true ⟨?_, ?_, ?_⟩ <;> rintro rfl <;> simp at above
  rw [clean_eq, List.mem_filter, core, mem_stripChars_iff kept, and_iff_left inner]

namespace Parts

/-- The same address but for a path that goes on, and nothing behind it. -/
structure Below (q p : Parts) (more : List Char) : Prop where
  scheme : q.scheme = p.scheme
  authority : q.authority = p.authority
  path : GoesOn more p.path q.path
  rest : q.rest = []

variable {p : Parts}

theorem not_mem_origin {c : Char} (begins : c = '?' ∨ c = '#') (p : Parts) : c ∉ p.origin := by
  have unscheming : isSchemeChar c = false := by rcases begins with rfl | rfl <;> rfl
  have noColon : c ≠ ':' := by rcases begins with rfl | rfl <;> decide
  have noSlash : SchemeKind.web.isSlash c = false := by rcases begins with rfl | rfl <;> rfl
  have ends : SchemeKind.web.endsAuthority c = true := by rcases begins with rfl | rfl <;> rfl
  simp only [origin, List.mem_append, List.mem_cons, not_or]
  refine ⟨?_, noColon, ?_, ?_⟩
  · exact fun mem => by simp [p.scheme_chars c mem] at unscheming
  · exact fun mem => by simp [p.slashes_chars c mem] at noSlash
  · exact fun mem => by simp [p.authority_chars c mem] at ends

/-- Nothing in front of a query or a fragment could begin one. -/
theorem not_mem_front {c : Char} (begins : c = '?' ∨ c = '#') (p : Parts) :
    c ∉ p.origin ++ p.path := by
  intro mem
  rcases List.mem_append.mp mem with mem | mem
  · exact p.not_mem_origin begins mem
  · obtain ⟨noQuery, noFragment⟩ := p.path_chars c mem
    exact begins.elim noQuery noFragment

/-- A query or a fragment begins with the first character of its kind. -/
theorem rest_eq_nil_iff (of : p.Of text) :
    p.rest = [] ↔ '?' ∉ text.toList ∧ '#' ∉ text.toList := by
  rw [← mem_clean_iff (by decide), ← mem_clean_iff (by decide), of]
  constructor
  · intro none
    rw [Parts.text, none, List.append_nil]
    exact ⟨p.not_mem_front (.inl rfl), p.not_mem_front (.inr rfl)⟩
  · rintro ⟨noQuery, noFragment⟩
    cases shape : p.rest with
    | nil => rfl
    | cons c cs =>
      have mem : c ∈ p.text := by simp [Parts.text, shape]
      rcases p.rest_begins c (by rw [shape]; rfl) with rfl | rfl
      · exact absurd mem noQuery
      · exact absurd mem noFragment

/-- An authority does not end in a slash. -/
theorem exists_origin_last (p : Parts) : ∃ front c, p.origin = front ++ [c] ∧ c ≠ '/' := by
  obtain ⟨front, c, shape⟩ := List.eq_nil_or_concat' p.authority |>.resolve_left p.authority_ne
  refine ⟨p.scheme ++ ':' :: (p.slashes ++ front), c, by simp [origin, shape], ?_⟩
  rintro rfl
  have inside := p.authority_chars '/' (by simp [shape])
  cases inside

/-- Slashes at the end of an address stand in its path. -/
theorem exists_path_front {front slashes : List Char}
    (whole : p.origin ++ p.path = front ++ slashes) (slash : ∀ c ∈ slashes, c = '/') :
    ∃ lead, p.path = lead ++ slashes ∧ front = p.origin ++ lead := by
  rcases List.append_eq_append_iff.mp whole with ⟨lead, before, behind⟩ | ⟨tail, before, behind⟩
  · exact ⟨lead, behind, before⟩
  · obtain ⟨origin, last, shape, other⟩ := p.exists_origin_last
    rcases List.eq_nil_or_concat' tail with rfl | ⟨init, c, rfl⟩
    · exact ⟨[], behind.symm, by simpa using before.symm⟩
    · have same : last = c := by
        rw [shape, ← List.append_assoc] at before
        exact List.singleton_inj.mp (List.append_inj' before rfl).2
      exact absurd (slash c (by simp [behind])) (same ▸ other)

/-- An address without a query and a fragment has addresses below it. -/
theorem exists_below {front slashes : List Char} (p : Parts) (bare : p.rest = [])
    (more : List Char) (begins : more.head? = some '/') (free : ∀ c ∈ more, c ≠ '?' ∧ c ≠ '#')
    (whole : p.text = front ++ slashes) (slash : ∀ c ∈ slashes, c = '/') :
    ∃ q : Parts, q.Below p more ∧ q.text = front ++ more := by
  rw [Parts.text, bare, List.append_nil] at whole
  obtain ⟨lead, path, rfl⟩ := exists_path_front whole slash
  let q : Parts := { p with
    path := lead ++ more
    rest := []
    path_begins := by
      intro c first
      cases lead with
      | nil =>
        rw [List.nil_append, begins] at first
        cases first
        rfl
      | cons d ds => exact p.path_begins c (by rw [path]; exact first)
    path_chars := by
      intro c mem
      rcases List.mem_append.mp mem with mem | mem
      · exact p.path_chars c (by rw [path]; exact List.mem_append_left _ mem)
      · exact free c mem
    rest_begins := by
      intro c first
      cases first }
  refine ⟨q, ⟨rfl, rfl, ⟨lead, slashes, path, slash, rfl⟩, rfl⟩, ?_⟩
  rw [Parts.text, List.append_nil, List.append_assoc]
  rfl

end Parts

end PrecheckLoad.Url
