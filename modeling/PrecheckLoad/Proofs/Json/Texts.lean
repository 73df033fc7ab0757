import Mathlib.Data.List.Forall2
import PrecheckLoad.Proofs.Json.Leaves

/-!
# Texts that are read back

A text is read as a node if it is, whatever follows it, given as many calls as it has characters.
Leaves are read so, and so are arrays and objects of parts that are, with blanks anywhere between
them. So both ways of writing a value, compact and indented, are read back by one argument.
-/
namespace PrecheckLoad.Json

open Text Decimal

variable {v : Node} {text s s' rest blanks piece : List Char} {c : Char} {fuel n : Nat}

def Reads (v : Node) (text : List Char) : Prop :=
  ∀ fuel rest, text.length ≤ fuel → EndsNumber rest →
    readValue fuel (text ++ rest) = (v, some rest)

theorem readValue_congr (same : skipSpace s = skipSpace s') :
    readValue (fuel + 1) s = readValue (fuel + 1) s' := by
  rw [readValue, readValue, same]

namespace Reads

theorem ne_nil (h : Reads v text) : text ≠ [] := by
  rintro rfl
  have read := h 0 [] (Nat.le_refl 0) .nil
  cases read

theorem blanks_append (h : Reads v text) (hb : Blanks blanks) : Reads v (blanks ++ text) := by
  intro fuel rest le ends
  have room : text.length ≤ fuel := by
    rw [List.length_append] at le
    omega
  have pos := List.length_pos_iff.mpr h.ne_nil
  cases fuel with
  | zero => omega
  | succ fuel =>
    rw [List.append_assoc, readValue_congr (skipSpace_append hb _)]
    exact h (fuel + 1) rest room ends

/-- Blanks in front may have been skipped before. -/
theorem skipped (h : Reads v text) (le : text.length ≤ fuel) (ends : EndsNumber rest) :
    readValue fuel (skipSpace (text ++ rest)) = (v, some rest) := by
  have pos := List.length_pos_iff.mpr h.ne_nil
  cases fuel with
  | zero => omega
  | succ fuel =>
    rw [readValue_congr (skipSpace_skipSpace _)]
    exact h (fuel + 1) rest le ends

/-- No value begins with the bracket that closes an array. -/
theorem not_closing (h : Reads v text) (ends : EndsNumber rest) (s : List Char) :
    skipSpace (text ++ rest) ≠ ']' :: s := by
  intro same
  have read := h.skipped (Nat.le_succ text.length) ends
  rw [same] at read
  cases read

theorem null : Reads .null ['n', 'u', 'l', 'l'] := by
  intro fuel rest le ends
  cases fuel with
  | zero => cases le
  | succ fuel => rfl

theorem bool (b : Bool) : Reads (.bool b) (compactChars (.bool b)) := by
  intro fuel rest le ends
  cases fuel with
  | zero => cases b <;> cases le
  | succ fuel => cases b <;> rfl

theorem string (t : String) : Reads (.string t) (stringChars t) := by
  intro fuel rest le ends
  obtain ⟨body, shape, read⟩ := readString_stringChars t rest
  rw [shape] at le ⊢
  cases fuel with
  | zero => cases le
  | succ fuel =>
    rw [List.cons_append, readValue, skipSpace_cons (by decide)]
    exact read

theorem nat (fits : n < 2 ^ 64) : Reads (.number (.int n)) (digitChars n) := by
  intro fuel rest le ends
  have read := readNumber_digitChars fits ends
  have digits : ∀ c ∈ digitChars n, isDigit c = true := fun c => isDigit_of_mem_digitChars
  cases shape : digitChars n with
  | nil => exact absurd shape (digitChars_ne_nil n)
  | cons d ds =>
    rw [shape] at le read digits
    have first : isDigit d = true := digits d List.mem_cons_self
    have apart : ∀ {c}, isDigit c = false → d ≠ c := by
      rintro c other rfl
      rw [first] at other
      cases other
    have printed : isSpace d = false := by
      rw [Bool.eq_false_iff]
      intro blank
      simp only [isSpace, Bool.or_eq_true, decide_eq_true_eq] at blank
      rcases blank with ((rfl | rfl) | rfl) | rfl
      all_goals exact absurd first (by decide)
    cases fuel with
    | zero => cases le
    | succ fuel =>
      rw [List.cons_append, readValue.eq_def]
      dsimp only
      rw [skipSpace_cons printed]
      split
      case h_9 same =>
        obtain ⟨rfl, rfl⟩ := List.cons.inj same
        rw [if_pos first, ← List.cons_append]
        exact read
      case h_1 same => cases same
      all_goals exact absurd (List.cons.inj (by assumption)).1 (apart (by decide))

end Reads

/-- Pieces of text with commas between them. -/
def commaed : List (List Char) → List Char
  | [] => []
  | [piece] => piece
  | piece :: next :: rest => piece ++ ',' :: commaed (next :: rest)

/-- A writer of lists puts commas between pieces if it does so behind the first of several. -/
theorem eq_commaed {α : Type} {write : List α → List Char} {piece : α → List Char}
    (none : write [] = []) (single : ∀ a, write [a] = piece a)
    (several : ∀ a b rest, write (a :: b :: rest) = piece a ++ ',' :: write (b :: rest))
    (xs : List α) : write xs = commaed (xs.map piece) := by
  induction xs with
  | nil => exact none
  | cons a rest ih =>
    cases rest with
    | nil => exact single a
    | cons b rest =>
      rw [several, ih]
      rfl

theorem endsNumber_closing {closing : Char} (hc : closing = ']' ∨ closing = '}')
    (hb : Blanks blanks) : EndsNumber (blanks ++ closing :: rest) := by
  cases blanks with
  | nil =>
    rcases hc with rfl | rfl
    all_goals exact .cons (by decide) (by decide) (by decide) (by decide)
  | cons b blanks =>
    have blank := hb b List.mem_cons_self
    simp only [isSpace, Bool.or_eq_true, decide_eq_true_eq] at blank
    rcases blank with ((rfl | rfl) | rfl) | rfl
    all_goals exact .cons (by decide) (by decide) (by decide) (by decide)

theorem endsNumber_comma : EndsNumber (',' :: rest) :=
  .cons (by decide) (by decide) (by decide) (by decide)

theorem skipSpace_closing {closing : Char} (hc : isSpace closing = false) (hb : Blanks blanks) :
    skipSpace (blanks ++ closing :: rest) = closing :: rest := by
  rw [skipSpace_append hb, skipSpace_cons hc]

/-- The first of several items does not begin with the closing bracket. -/
theorem commaed_not_closing {pieces : List (List Char)} (first : Reads v piece)
    (hb : Blanks blanks) (s : List Char) :
    skipSpace (commaed (piece :: pieces) ++ (blanks ++ ']' :: rest)) ≠ ']' :: s := by
  cases pieces with
  | nil => exact first.not_closing (endsNumber_closing (Or.inl rfl) hb) s
  | cons next pieces =>
    rw [commaed, List.append_assoc]
    exact first.not_closing endsNumber_comma s

/-- Items that are read back are read back in their order, up to the closing bracket. -/
theorem readItems_commaed {vs : List Node} {pieces : List (List Char)}
    (reads : List.Forall₂ Reads vs pieces) (some_item : vs ≠ []) (hb : Blanks blanks)
    (le : (commaed pieces).length < fuel) :
    readItems fuel (skipSpace (commaed pieces ++ (blanks ++ ']' :: rest))) =
      ((vs, none), some rest) := by
  induction reads generalizing fuel with
  | nil => exact absurd rfl some_item
  | @cons v piece vs pieces first later ih =>
    cases fuel with
    | zero => cases le
    | succ fuel =>
      cases later with
      | nil =>
        have read : readValue fuel (skipSpace (piece ++ (blanks ++ ']' :: rest))) =
            (v, some (blanks ++ ']' :: rest)) :=
          first.skipped (Nat.le_of_lt_succ le) (endsNumber_closing (Or.inl rfl) hb)
        rw [readItems, commaed, read]
        dsimp only
        rw [skipSpace_closing (by decide) hb]
        rfl
      | @cons v' next vs pieces second later =>
        have opening : ∀ s, skipSpace (commaed (next :: pieces) ++ (blanks ++ ']' :: rest)) ≠
            ']' :: s := commaed_not_closing second hb
        rw [commaed, List.length_append, List.length_cons] at le
        have read : readValue fuel (skipSpace (piece ++ ',' :: (commaed (next :: pieces) ++
            (blanks ++ ']' :: rest)))) = (v, some (',' :: (commaed (next :: pieces) ++
            (blanks ++ ']' :: rest)))) := first.skipped (by omega) endsNumber_comma
        have others : readItems fuel (skipSpace (commaed (next :: pieces) ++
            (blanks ++ ']' :: rest))) = ((v' :: vs, none), some rest) :=
          ih (by simp) (by omega)
        rw [readItems, commaed, List.append_assoc, List.cons_append, read]
        simp only [skipSpace_cons (show isSpace ',' = false by decide), others]

theorem readValue_no_items (h : skipSpace s = ']' :: rest) :
    readValue (fuel + 1) ('[' :: s) = (.array [] none, some rest) := by
  simp only [readValue, skipSpace_cons (show isSpace '[' = false by decide), h]

theorem readValue_items {vs : List Node} (opening : ∀ s', skipSpace s ≠ ']' :: s')
    (some_item : skipSpace s ≠ [])
    (items : readItems fuel (skipSpace s) = ((vs, none), some rest)) :
    readValue (fuel + 1) ('[' :: s) = (.array vs none, some rest) := by
  simp only [readValue, skipSpace_cons (show isSpace '[' = false by decide)]
  rw [items]

/-- An array is read back if its items are. -/
theorem Reads.array {vs : List Node} {pieces : List (List Char)}
    (reads : List.Forall₂ Reads vs pieces) (hb : Blanks blanks) :
    Reads (.array vs none) ('[' :: (commaed pieces ++ (blanks ++ [']']))) := by
  intro fuel rest le ends
  simp only [List.length_cons, List.length_append, List.length_nil] at le
  cases fuel with
  | zero => omega
  | succ fuel =>
    simp only [List.cons_append, List.append_assoc, List.nil_append]
    cases reads with
    | nil => exact readValue_no_items (skipSpace_closing (by decide) hb)
    | @cons v piece vs pieces first later =>
      have items : readItems fuel (skipSpace (commaed (piece :: pieces) ++
          (blanks ++ ']' :: rest))) = ((v :: vs, none), some rest) :=
        readItems_commaed (.cons first later) (by simp) hb (by omega)
      refine readValue_items (commaed_not_closing first hb) (fun none => ?_) items
      rw [none] at items
      cases fuel with
      | zero => cases items
      | succ fuel => cases fuel <;> cases items

/-- A field is read back if its value is; there may be blanks before its key and its value. -/
def ReadsField (f : Node × Node) (piece : List Char) : Prop :=
  ∃ blanks k text, Blanks blanks ∧ piece = blanks ++ (stringChars k ++ ':' :: text) ∧
    f.1 = .string k ∧ Reads f.2 text

variable {f : Node × Node} {fs : List (Node × Node)} {pieces : List (List Char)}

/-- A field is read as its key, a colon and its value. -/
theorem ReadsField.parts (h : ReadsField f piece) (le : piece.length ≤ fuel)
    (ends : EndsNumber rest) : ∃ body text, skipSpace (piece ++ rest) = '"' :: body ∧
      readString {} body = (f.1, some (':' :: text)) ∧
      readValue fuel text = (f.2, some rest) := by
  obtain ⟨blanks, k, text, hb, rfl, key, reads⟩ := h
  obtain ⟨body, shape, read⟩ := readString_stringChars k (':' :: (text ++ rest))
  refine ⟨body ++ ':' :: (text ++ rest), text ++ rest, ?_, ?_, ?_⟩
  · rw [List.append_assoc, skipSpace_append hb, shape]
    simp only [List.cons_append, List.append_assoc]
    exact skipSpace_cons (by decide) _
  · rw [key]
    exact read
  · simp only [List.length_append, List.length_cons] at le
    exact reads fuel rest (by omega) ends

theorem ReadsField.last (h : ReadsField f piece) (le : piece.length ≤ fuel)
    (ends : EndsNumber rest) (closing : skipSpace rest = '}' :: s) :
    readFields (fuel + 1) (skipSpace (piece ++ rest)) = (([f], none), some s) := by
  obtain ⟨body, text, opened, key, value⟩ := h.parts le ends
  rw [opened]
  simp only [readFields, key, readColon, skipSpace_cons (show isSpace ':' = false by decide), value,
    closing]

theorem ReadsField.more (h : ReadsField f piece) (le : piece.length ≤ fuel)
    (others : readFields fuel (skipSpace s) = ((fs, none), some rest)) :
    readFields (fuel + 1) (skipSpace (piece ++ ',' :: s)) = ((f :: fs, none), some rest) := by
  obtain ⟨body, text, opened, key, value⟩ := h.parts le endsNumber_comma
  rw [opened]
  simp only [readFields, key, readColon, skipSpace_cons (show isSpace ':' = false by decide), value,
    skipSpace_cons (show isSpace ',' = false by decide), others]

/-- Fields that are read back are read back in their order, up to the closing brace. -/
theorem readFields_commaed (reads : List.Forall₂ ReadsField fs pieces) (some_field : fs ≠ [])
    (hb : Blanks blanks) (le : (commaed pieces).length < fuel) :
    readFields fuel (skipSpace (commaed pieces ++ (blanks ++ '}' :: rest))) =
      ((fs, none), some rest) := by
  induction reads generalizing fuel with
  | nil => exact absurd rfl some_field
  | @cons f piece fs pieces first later ih =>
    cases fuel with
    | zero => cases le
    | succ fuel =>
      cases later with
      | nil =>
        exact first.last (Nat.le_of_lt_succ le) (endsNumber_closing (Or.inr rfl) hb)
          (skipSpace_closing (by decide) hb)
      | @cons f' next fs pieces second later =>
        rw [commaed, List.length_append, List.length_cons] at le
        have others : readFields fuel (skipSpace (commaed (next :: pieces) ++
            (blanks ++ '}' :: rest))) = ((f' :: fs, none), some rest) :=
          ih (by simp) (by omega)
        rw [commaed, List.append_assoc, List.cons_append]
        exact first.more (by omega) others

theorem readValue_no_fields (h : skipSpace s = '}' :: rest) :
    readValue (fuel + 1) ('{' :: s) = (.object [] none, some rest) := by
  simp only [readValue, skipSpace_cons (show isSpace '{' = false by decide), h]

theorem readValue_fields (opening : ∀ s', skipSpace s ≠ '}' :: s')
    (fields : readFields fuel (skipSpace s) = ((fs, none), some rest)) :
    readValue (fuel + 1) ('{' :: s) = (.object fs none, some rest) := by
  simp only [readValue, skipSpace_cons (show isSpace '{' = false by decide)]
  rw [fields]

/-- The first of several fields begins with a quote. -/
theorem commaed_opening (first : ReadsField f piece) (s s' : List Char) :
    skipSpace (commaed (piece :: pieces) ++ s) ≠ '}' :: s' := by
  obtain ⟨blanks, k, text, hb, rfl, -⟩ := first
  obtain ⟨body, shape, -⟩ := readString_stringChars k []
  have front : ∃ after, commaed ((blanks ++ (stringChars k ++ ':' :: text)) :: pieces) ++ s =
      blanks ++ '"' :: after := by
    rw [shape]
    cases pieces with
    | nil => exact ⟨_, by rw [commaed]; simp only [List.append_assoc, List.cons_append]; rfl⟩
    | cons next pieces =>
      exact ⟨_, by rw [commaed]; simp only [List.append_assoc, List.cons_append]; rfl⟩
  obtain ⟨after, shape⟩ := front
  rw [shape, skipSpace_closing (by decide) hb]
  intro same
  exact absurd (List.cons.inj same).1 (by decide)

/-- An object is read back if its fields are. -/
theorem Reads.object (reads : List.Forall₂ ReadsField fs pieces) (hb : Blanks blanks) :
    Reads (.object fs none) ('{' :: (commaed pieces ++ (blanks ++ ['}']))) := by
  intro fuel rest le ends
  simp only [List.length_cons, List.length_append, List.length_nil] at le
  cases fuel with
  | zero => omega
  | succ fuel =>
    simp only [List.cons_append, List.append_assoc, List.nil_append]
    cases reads with
    | nil => exact readValue_no_fields (skipSpace_closing (by decide) hb)
    | @cons f piece fs pieces first later =>
      have fields : readFields fuel (skipSpace (commaed (piece :: pieces) ++
          (blanks ++ '}' :: rest))) = ((f :: fs, none), some rest) :=
        readFields_commaed (.cons first later) (by simp) hb (by omega)
      exact readValue_fields (commaed_opening first _) fields

end PrecheckLoad.Json
