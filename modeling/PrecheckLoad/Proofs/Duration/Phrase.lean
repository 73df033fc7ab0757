import PrecheckLoad.Duration.Phrase
import PrecheckLoad.Duration.Reader
import PrecheckLoad.Proofs.Decimal.Digits
import PrecheckLoad.Proofs.Fallible
import PrecheckLoad.Proofs.Text.Parts

/-!
# Durations in words are read back

A phrase is a row of counts with their units, a blank between two of them. Each is read for itself
and added to the sum, which never gets beyond the duration that the phrase was made from.
-/
namespace PrecheckLoad.Duration

open Text Decimal

variable {t t' : Sum} {n size o : Nat} {name : String}

/-- A count and the name of its unit. -/
structure Part where
  count : Nat
  unit : String

namespace Part

def text (p : Part) : String := toString p.count ++ p.unit

def item (p : Part) : Item := ⟨p.count, none, p.unit⟩

/-- The count fits 64 bits and the unit is a word of letters. -/
structure Legible (p : Part) : Prop where
  fits : p.count < 2 ^ 64
  named : p.unit.toList ≠ []
  letters : p.unit.toList.all (fun c => isUnitLetter c && !isDigit c && !isBlank c) = true

end Part

theorem word_eq_ok (fits : n < 2 ^ 64) : word n = .ok n := if_pos fits

theorem foldlM_digits {k : Nat} {ds : List Char} (digits : ∀ c ∈ ds, isDigit c = true)
    (fits : readOn k ds < 2 ^ 64) : ∃ o', ds.foldlM readChar ⟨o, .whole k, t⟩ =
      .ok ⟨o', .whole (readOn k ds), t⟩ := by
  induction ds generalizing k o with
  | nil => exact ⟨o, rfl⟩
  | cons c ds ih =>
    rw [readOn_cons] at fits ⊢
    have digit : isDigit c = true := digits c List.mem_cons_self
    have small : k * 10 + digitValue c < 2 ^ 64 := Nat.lt_of_le_of_lt (le_readOn _ ds) fits
    have step : readChar ⟨o, .whole k, t⟩ c =
        .ok ⟨o + c.utf8Size, .whole (k * 10 + digitValue c), t⟩ := by
      simp only [readChar, digit, if_true, nextDigit, word_eq_ok small]
      rfl
    obtain ⟨o', read⟩ := ih (o := o + c.utf8Size)
      (fun c hc => digits c (List.mem_cons_of_mem _ hc)) fits
    exact ⟨o', by rw [List.foldlM_cons, step, ok_bind, read]⟩

theorem foldlM_letters (done : List Char) {letters : List Char}
    (plain : letters.all (fun c => isUnitLetter c && !isDigit c && !isBlank c) = true) :
    ∃ o', letters.foldlM readChar ⟨o, .unit n none done, t⟩ =
      .ok ⟨o', .unit n none (letters.reverse ++ done), t⟩ := by
  induction letters generalizing done o with
  | nil => exact ⟨o, rfl⟩
  | cons c letters ih =>
    simp only [List.all_cons, Bool.and_eq_true, Bool.not_eq_true'] at plain
    obtain ⟨⟨⟨letter, digit⟩, blank⟩, plain⟩ := plain
    have step : readChar ⟨o, .unit n none done, t⟩ c =
        .ok ⟨o + c.utf8Size, .unit n none (c :: done), t⟩ := by
      simp only [readChar, digit, blank, letter, Bool.false_eq_true, if_false, if_true]
      rfl
    obtain ⟨o', read⟩ := ih (o := o + c.utf8Size) (c :: done) (by simpa using plain)
    refine ⟨o', ?_⟩
    rw [List.foldlM_cons, step, ok_bind, read, List.reverse_cons, List.append_assoc]
    rfl

theorem Part.toList_text (p : Part) : p.text.toList = digitChars p.count ++ p.unit.toList := by
  rw [text, String.toList_append, Nat.toString_eq_ofList_toDigits, String.toList_ofList]
  rfl

theorem foldlM_part {p : Part} (h : p.Legible) (b : Nat) :
    ∃ o', p.text.toList.foldlM readChar ⟨o, .before b, t⟩ =
      .ok ⟨o', .unit p.count none p.unit.toList.reverse, t⟩ := by
  obtain ⟨fits, named, letters⟩ := h
  rw [p.toList_text]
  cases shape : digitChars p.count with
  | nil => exact absurd shape (digitChars_ne_nil _)
  | cons d ds =>
    cases spelled : p.unit.toList with
    | nil => exact absurd spelled named
    | cons u us =>
      have digits : ∀ c ∈ d :: ds, isDigit c = true := fun c hc =>
        isDigit_of_mem_digitChars (shape ▸ hc)
      have number : readOn (digitValue d) ds = p.count := by
        have read := readOn_digitChars p.count
        rwa [shape, readOn_cons, Nat.zero_mul, Nat.zero_add] at read
      have begun : readChar ⟨o, .before b, t⟩ d =
          .ok ⟨o + d.utf8Size, .whole (digitValue d), t⟩ := by
        simp only [readChar, digits d List.mem_cons_self, if_true]
        rfl
      obtain ⟨o₁, counted⟩ := foldlM_digits (o := o + d.utf8Size) (t := t)
        (fun c hc => digits c (List.mem_cons_of_mem d hc)) (by rw [number]; exact fits)
      rw [spelled, List.all_cons, Bool.and_eq_true] at letters
      obtain ⟨first, letters⟩ := letters
      simp only [Bool.and_eq_true, Bool.not_eq_true'] at first
      obtain ⟨⟨letter, digit⟩, blank⟩ := first
      have turned : readChar ⟨o₁, .whole p.count, t⟩ u =
          .ok ⟨o₁ + u.utf8Size, .unit p.count none [u], t⟩ := by
        simp only [readChar, digit, blank, letter, Bool.false_eq_true, if_false, if_true]
        rfl
      obtain ⟨o₂, named⟩ := foldlM_letters (o := o₁ + u.utf8Size) (t := t)
        (n := p.count) [u] letters
      refine ⟨o₂, ?_⟩
      rw [List.foldlM_append, List.foldlM_cons, begun, ok_bind, counted, ok_bind, number,
        List.foldlM_cons, turned, ok_bind, named, List.reverse_cons]

theorem foldlM_blank {p : Part} : readChar ⟨o, .unit p.count none p.unit.toList.reverse, t⟩ ' ' =
    (t.addItem p.item).map fun sum => ⟨o + ' '.utf8Size, .before (o + ' '.utf8Size), sum⟩ := by
  have digit : isDigit ' ' = false := by decide
  have blank : isBlank ' ' = true := by decide
  simp only [readChar, digit, blank, Bool.false_eq_true, if_false, if_true, List.reverse_reverse,
    String.ofList_toList]
  rw [Part.item]
  cases t.addItem ⟨p.count, none, p.unit⟩ <;> rfl

theorem joined_cons (p q : Part) (parts : List Part) :
    (joinWith " " ((p :: q :: parts).map Part.text)).toList =
      p.text.toList ++ ' ' :: (joinWith " " ((q :: parts).map Part.text)).toList := by
  rw [List.map_cons, List.map_cons, joinWith, String.toList_append, String.toList_append,
    List.append_assoc]
  · rfl
  · simp

def addParts (t : Sum) (parts : List Part) : Except PhraseError Sum :=
  parts.foldlM (fun t p => t.addItem p.item) t

/-- The parts of a phrase are added up one after the other. -/
theorem read_parts {parts : List Part} (some_part : parts ≠ [])
    (legible : ∀ p ∈ parts, p.Legible) (b : Nat) :
    ((joinWith " " (parts.map Part.text)).toList.foldlM readChar ⟨o, .before b, t⟩ >>=
        ReadState.finish) = addParts t parts := by
  induction parts generalizing o b t with
  | nil => exact absurd rfl some_part
  | cons p parts ih =>
    obtain ⟨o', read⟩ := foldlM_part (o := o) (t := t) (legible p List.mem_cons_self) b
    cases parts with
    | nil =>
      rw [List.map_singleton, joinWith, read, ok_bind, ReadState.finish]
      simp only [List.reverse_reverse, String.ofList_toList, addParts, List.foldlM_cons,
        List.foldlM_nil, bind_pure]
      rfl
    | cons q parts =>
      rw [joined_cons, List.foldlM_append, read, ok_bind, List.foldlM_cons, foldlM_blank,
        addParts, List.foldlM_cons]
      cases added : t.addItem p.item with
      | error e => rfl
      | ok t' =>
        rw [ok_bind]
        exact ih (by simp) (fun p hp => legible p (List.mem_cons_of_mem _ hp)) _

/-- A word is a name of a unit. -/
structure Spells (name : String) (unit : TimeUnit) : Prop where
  known : TimeUnit.ofName? name = some unit
  named : name.toList ≠ []
  letters : name.toList.all (fun c => isUnitLetter c && !isDigit c && !isBlank c) = true

instance (name : String) (unit : TimeUnit) : Decidable (Spells name unit) :=
  decidable_of_iff (TimeUnit.ofName? name = some unit ∧ name.toList ≠ [] ∧
      name.toList.all (fun c => isUnitLetter c && !isDigit c && !isBlank c) = true)
    ⟨fun h => ⟨h.1, h.2.1, h.2.2⟩, fun h => ⟨h.known, h.named, h.letters⟩⟩

variable {unit : TimeUnit}

/-- What a count of a unit makes of a sum that it fits into. -/
inductive Grain.Adds (n : Nat) (t t' : Sum) : Grain → Prop
  | seconds {size : Nat} (seconds : t'.seconds = t.seconds + n * size) (nanos : t'.nanos = t.nanos)
      (fits : t'.seconds < 2 ^ 64) : Adds n t t' (.seconds size)
  | nanos {size : Nat} (seconds : t'.seconds = t.seconds) (nanos : t'.nanos = t.nanos + n * size)
      (fits : t'.nanos < 1000000000) : Adds n t t' (.nanos size)

theorem addItem_eq_ok (spells : Spells name unit) (adds : unit.grain.Adds n t t') :
    t.addItem ⟨n, none, name⟩ = .ok t' := by
  have total : t.add n unit.grain = .ok t' := by
    obtain ⟨seconds', nanos'⟩ := t'
    generalize unit.grain = grain at adds
    cases adds with
    | @seconds size seconds nanos fits =>
      dsimp only at seconds nanos fits
      rw [Sum.add, word_eq_ok (by omega), ok_bind, Sum.addSeconds, word_eq_ok (by omega), ok_bind,
        seconds, nanos]
      rfl
    | @nanos size seconds nanos fits =>
      dsimp only at seconds nanos fits
      rw [Sum.add, word_eq_ok (by omega), ok_bind, Sum.addNanos, word_eq_ok (by omega), ok_bind,
        if_neg (by omega), if_neg (by omega), seconds, nanos]
      rfl
  rw [Sum.addItem]
  dsimp only
  rw [spells.known]
  dsimp only
  rw [pure_bind, total, ok_bind]
  rfl

/-- Words that are read as parts and lead from one sum to another. -/
def Leads (words : List String) (t t' : Sum) : Prop :=
  ∃ parts : List Part, words = parts.map Part.text ∧ (∀ p ∈ parts, p.Legible) ∧
    addParts t parts = .ok t'

theorem Leads.append {words words' : List String} {t'' : Sum} (h : Leads words t t')
    (h' : Leads words' t' t'') : Leads (words ++ words') t t'' := by
  obtain ⟨parts, rfl, legible, added⟩ := h
  obtain ⟨parts', rfl, legible', added'⟩ := h'
  refine ⟨parts ++ parts', (List.map_append ..).symm, fun p hp => ?_, ?_⟩
  · rcases List.mem_append.mp hp with hp | hp
    · exact legible p hp
    · exact legible' p hp
  · rw [addParts] at added added' ⊢
    rw [List.foldlM_append, added, ok_bind, added']

/-- A count is led by its word, and a count of zero by none. -/
theorem leads_counted (unit : TimeUnit) {plural : Bool} (one : Spells name unit)
    (many : Spells (name ++ if plural then "s" else "") unit) (fits : n < 2 ^ 64)
    (adds : unit.grain.Adds n t t') : Leads (counted n name plural) t t' := by
  by_cases zero : n = 0
  · subst zero
    have same : t = t' := by
      obtain ⟨seconds, nanos⟩ := t
      obtain ⟨seconds', nanos'⟩ := t'
      generalize unit.grain = grain at adds
      cases adds <;> simp_all
    subst same
    exact ⟨[], rfl, by simp, rfl⟩
  · have spells : Spells (name ++ if plural && decide (n > 1) then "s" else "") unit := by
      by_cases more : (plural && decide (n > 1)) = true
      · have flag : plural = true := (Bool.and_eq_true_iff.mp more).1
        rw [if_pos flag] at many
        rwa [if_pos more]
      · rw [if_neg more, String.append_empty]
        exact one
    refine ⟨[⟨n, name ++ if plural && decide (n > 1) then "s" else ""⟩], ?_, ?_, ?_⟩
    · rw [counted, if_neg zero, List.map_singleton, Part.text, String.append_assoc]
    · intro p hp
      rw [List.mem_singleton.mp hp]
      exact ⟨fits, spells.named, spells.letters⟩
    · rw [addParts, List.foldlM_cons, Part.item, addItem_eq_ok spells adds, ok_bind]
      rfl

/-- The parts of a duration lead to all its seconds and nanoseconds. -/
theorem leads_phraseParts (d : Duration) : Leads d.phraseParts {} ⟨d.seconds, d.subsecond⟩ := by
  have bound : d.seconds < 2 ^ 64 := by
    have := d.lt_limit
    rw [seconds]
    omega
  have below : d.subsecond < 1000000000 := Nat.mod_lt _ (by decide)
  rw [phraseParts, yearSeconds, monthSeconds]
  generalize d.seconds = s at bound
  generalize d.subsecond = ns at below
  let inYear := s % 31557600
  let inMonth := inYear % 2630016
  let inDay := inMonth % 86400
  have years : Leads (counted (s / 31557600) "year" true) {} ⟨s - inYear, 0⟩ :=
    leads_counted .year (by decide) (by decide) (by omega)
      (.seconds (by dsimp only [yearSeconds]; omega) rfl (by dsimp only; omega))
  have months : Leads (counted (inYear / 2630016) "month" true) ⟨s - inYear, 0⟩
      ⟨s - inMonth, 0⟩ :=
    leads_counted .month (by decide) (by decide) (by omega)
      (.seconds (by dsimp only [monthSeconds]; omega) rfl (by dsimp only; omega))
  have days : Leads (counted (inMonth / 86400) "day" true) ⟨s - inMonth, 0⟩ ⟨s - inDay, 0⟩ :=
    leads_counted .day (by decide) (by decide) (by omega)
      (.seconds (by dsimp only; omega) rfl (by dsimp only; omega))
  have hours : Leads (counted (inDay / 3600) "h" false) ⟨s - inDay, 0⟩ ⟨s - inDay % 3600, 0⟩ :=
    leads_counted .hour (by decide) (by decide) (by omega)
      (.seconds (by dsimp only; omega) rfl (by dsimp only; omega))
  have minutes : Leads (counted (inDay % 3600 / 60) "m" false) ⟨s - inDay % 3600, 0⟩
      ⟨s - inDay % 60, 0⟩ :=
    leads_counted .minute (by decide) (by decide) (by omega)
      (.seconds (by dsimp only; omega) rfl (by dsimp only; omega))
  have seconds : Leads (counted (inDay % 60) "s" false) ⟨s - inDay % 60, 0⟩ ⟨s, 0⟩ :=
    leads_counted .second (by decide) (by decide) (by omega)
      (.seconds (by dsimp only; omega) rfl bound)
  have millis : Leads (counted (ns / 1000000) "ms" false) ⟨s, 0⟩ ⟨s, ns - ns % 1000000⟩ :=
    leads_counted .millisecond (by decide) (by decide) (by omega)
      (.nanos rfl (by dsimp only; omega) (by dsimp only; omega))
  have micros : Leads (counted (ns / 1000 % 1000) "us" false) ⟨s, ns - ns % 1000000⟩
      ⟨s, ns - ns % 1000⟩ :=
    leads_counted .microsecond (by decide) (by decide) (by omega)
      (.nanos rfl (by dsimp only; omega) (by dsimp only; omega))
  have nanos : Leads (counted (ns % 1000) "ns" false) ⟨s, ns - ns % 1000⟩ ⟨s, ns⟩ :=
    leads_counted .nanosecond (by decide) (by decide) (by omega)
      (.nanos rfl (by dsimp only; omega) below)
  exact (((((((years.append months).append days).append hours).append minutes).append
    seconds).append millis).append micros).append nanos

theorem Part.Legible.ends {p : Part} (h : p.Legible) : ∃ front c, p.text.toList = front ++ [c] ∧
    isUnitLetter c = true ∧ isBlank c = false := by
  have split := List.dropLast_concat_getLast h.named
  have last := List.all_eq_true.mp h.letters _ (List.getLast_mem h.named)
  simp only [Bool.and_eq_true, Bool.not_eq_true'] at last
  refine ⟨digitChars p.count ++ p.unit.toList.dropLast, _, ?_, last.1.1, last.2⟩
  rw [p.toList_text, List.append_assoc, split]

/-- A phrase ends with a letter. -/
theorem joined_ends {parts : List Part} (some_part : parts ≠ [])
    (legible : ∀ p ∈ parts, p.Legible) :
    ∃ front c, (joinWith " " (parts.map Part.text)).toList = front ++ [c] ∧
      isUnitLetter c = true ∧ isBlank c = false := by
  induction parts with
  | nil => exact absurd rfl some_part
  | cons p parts ih =>
    cases parts with
    | nil => exact (legible p List.mem_cons_self).ends
    | cons q parts =>
      obtain ⟨front, c, last, letter⟩ :=
        ih (by simp) fun p hp => legible p (List.mem_cons_of_mem _ hp)
      refine ⟨p.text.toList ++ ' ' :: front, c, ?_, letter⟩
      rw [joined_cons, last, List.append_assoc]
      rfl

/-- A phrase begins with a digit. -/
theorem joined_begins (p : Part) (parts : List Part) : ∃ c rest,
    (joinWith " " ((p :: parts).map Part.text)).toList = c :: rest ∧ isBlank c = false := by
  cases shape : digitChars p.count with
  | nil => exact absurd shape (digitChars_ne_nil _)
  | cons d ds =>
    have digit : isDigit d = true := isDigit_of_mem_digitChars (by
      rw [shape]
      exact List.mem_cons_self)
    have text := p.toList_text
    rw [shape, List.cons_append] at text
    cases parts with
    | nil => exact ⟨d, _, text, isBlank_of_isDigit digit⟩
    | cons q parts =>
      have joined := joined_cons p q parts
      rw [text, List.cons_append] at joined
      exact ⟨d, _, joined, isBlank_of_isDigit digit⟩

/-- A phrase is made of one part at least, and no time is told in seconds. -/
theorem phrase_eq_joined (d : Duration) : ∃ p parts,
    d.phrase = joinWith " " ((p :: parts).map Part.text) ∧ (∀ q ∈ p :: parts, q.Legible) ∧
    addParts {} (p :: parts) = .ok ⟨d.seconds, d.subsecond⟩ := by
  rw [phrase]
  by_cases none : d.nanos = 0
  · refine ⟨⟨0, "s"⟩, [], if_pos none, fun q hq => ?_, ?_⟩
    · rw [List.mem_singleton.mp hq]
      exact ⟨by decide, by decide, by decide⟩
    · have spells : Spells "s" .second := by decide
      have adds : TimeUnit.second.grain.Adds 0 {} ⟨d.seconds, d.subsecond⟩ := by
        rw [seconds, subsecond, none]
        exact .seconds rfl rfl (by decide)
      rw [addParts, List.foldlM_cons, Part.item, addItem_eq_ok spells adds, ok_bind]
      rfl
  · obtain ⟨parts, words, legible, added⟩ := leads_phraseParts d
    cases parts with
    | nil =>
      have sum := Sum.mk.inj (Except.ok.inj added)
      rw [seconds, subsecond] at sum
      omega
    | cons p parts => exact ⟨p, parts, by rw [if_neg none, words], legible, added⟩

theorem toDuration_eq_ok (d : Duration) : Sum.toDuration ⟨d.seconds, d.subsecond⟩ = .ok d := by
  have sum : d.seconds * 1000000000 + d.subsecond = d.nanos := by
    rw [seconds, subsecond]
    omega
  have value : ofNanos d.nanos = .ok d := by
    rw [ofNanos, ofNanos?, dif_pos d.lt_limit]
  rw [Sum.toDuration]
  dsimp only
  rw [sum, value]
  rfl

/-- A duration is what its phrase says. -/
theorem ofPhrase_phrase (d : Duration) : ofPhrase d.phrase = .ok d := by
  obtain ⟨p, parts, words, legible, added⟩ := phrase_eq_joined d
  have value := toDuration_eq_ok d
  generalize Sum.mk d.seconds d.subsecond = sum at added value
  obtain ⟨first, rest, begins, printed⟩ := joined_begins p parts
  obtain ⟨front, last, ends, letter, printed'⟩ := joined_ends (by simp) legible
  have read := read_parts (t := {}) (o := 0) (by simp) legible 0
  rw [ofPhrase, words]
  generalize (joinWith " " ((p :: parts).map Part.text)).toList = cs at begins ends read ⊢
  have trimmed : trimChars cs = cs := by
    refine trimChars_eq_self (fun c rest shape => ?_) fun front c shape => ?_
    · rw [begins] at shape
      rw [← (List.cons.inj shape).1]
      exact printed
    · rw [ends] at shape
      obtain ⟨-, same⟩ := List.append_inj' shape rfl
      rw [← (List.cons.inj same).1]
      exact printed'
  have lettered : cs ≠ ['0'] := by
    rw [ends]
    intro same
    obtain ⟨-, same⟩ := List.append_inj' (same.trans (List.nil_append ['0']).symm) rfl
    rw [(List.cons.inj same).1] at letter
    exact absurd letter (by decide)
  have some_char : cs.isEmpty = false := by
    rw [begins]
    rfl
  have summed : (cs.foldlM readChar ⟨0, .before 0, {}⟩ >>= ReadState.finish) = .ok sum :=
    read.trans added
  obtain ⟨st, folded, finished⟩ := bind_eq_ok.mp summed
  rw [trimmed, if_neg lettered]
  simp only [some_char, Bool.false_eq_true, if_false]
  rw [folded, ok_bind, finished, ok_bind, value]

end PrecheckLoad.Duration
