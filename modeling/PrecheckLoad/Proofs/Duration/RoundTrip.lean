import Mathlib.Tactic.SplitIfs
import PrecheckLoad.Proofs.Json.Decoding

/-!
# Durations survive being written

Each character of a text adds one item to the sum or none, and an item adds to the sum what it
stands for. So the sum only grows while a text is read, and as a phrase ends with the duration that
it was made from, it never gets beyond it on the way. What has been read once is read again from
what is written for it, however it was put the first time.
-/
namespace PrecheckLoad.Duration

variable {t t' : Sum} {st st' : ReadState} {n k : Nat}

/-- How many nanoseconds the parts make together. -/
def Sum.total (t : Sum) : Nat := t.seconds * 1000000000 + t.nanos

theorem eq_of_word (checked : word n = .ok k) : k = n := by
  unfold word at checked
  split at checked
  · exact (Except.ok.inj checked).symm
  · cases checked

theorem Sum.addNanos_total (added : t.addNanos n = .ok t') : t'.total = t.total + n := by
  unfold addNanos at added
  obtain ⟨ns, summed, added⟩ := bind_eq_ok.mp added
  have sum := eq_of_word summed
  unfold total
  split at added
  · obtain ⟨s, carried, added⟩ := bind_eq_ok.mp added
    have carry := eq_of_word carried
    cases added
    dsimp only
    omega
  · split at added
    · split at added
      · cases added
        dsimp only
        omega
      · cases added
    · cases added
      dsimp only
      omega

theorem Sum.addSeconds_total (added : t.addSeconds n = .ok t') :
    t'.total = t.total + n * 1000000000 := by
  unfold addSeconds at added
  obtain ⟨s, summed, added⟩ := bind_eq_ok.mp added
  have sum := eq_of_word summed
  cases added
  unfold total
  dsimp only
  omega

theorem Sum.le_add {grain : Grain} (added : t.add n grain = .ok t') : t.total ≤ t'.total := by
  cases grain with
  | nanos size =>
    obtain ⟨m, -, added⟩ := bind_eq_ok.mp added
    have total := addNanos_total added
    omega
  | seconds size =>
    obtain ⟨m, -, added⟩ := bind_eq_ok.mp added
    have total := addSeconds_total added
    omega

theorem Sum.le_addFraction {f : Fraction} {unit : TimeUnit}
    (added : t.addFraction f unit = .ok t') : t.total ≤ t'.total := by
  unfold addFraction at added
  split at added
  · cases added
  · obtain ⟨m, -, added⟩ := bind_eq_ok.mp added
    have total := addNanos_total added
    omega
  · obtain ⟨m, -, added⟩ := bind_eq_ok.mp added
    have total := addSeconds_total added
    omega

theorem Sum.le_addItem {item : Item} (added : t.addItem item = .ok t') : t.total ≤ t'.total := by
  unfold addItem at added
  dsimp only at added
  split at added
  · rw [pure_bind] at added
    obtain ⟨whole, counted, added⟩ := bind_eq_ok.mp added
    have le := le_add counted
    split at added
    · cases added
      exact le
    · exact Nat.le_trans le (le_addFraction added)
  · cases added

/-- What reading on does to a sum: it stays, or one item is added. -/
def Extends (t t' : Sum) : Prop := t' = t ∨ ∃ item, t.addItem item = .ok t'

theorem Extends.le (h : Extends t t') : t.total ≤ t'.total := by
  rcases h with rfl | ⟨item, added⟩
  · exact Nat.le_refl _
  · exact Sum.le_addItem added

theorem readChar_extends {c : Char} (read : readChar st c = .ok st') : Extends st.sum st'.sum := by
  obtain ⟨offset, phase, sum⟩ := st
  -- An item is added where the letters of its unit end; everything else carries the sum along.
  unfold readChar at read
  cases phase with
  | before since =>
    dsimp only at read
    split_ifs at read
    · cases read
      exact .inl rfl
    · cases read
      exact .inl rfl
  | whole number =>
    dsimp only at read
    split_ifs at read
    · obtain ⟨number', -, read⟩ := bind_eq_ok.mp read
      cases read
      exact .inl rfl
    · cases read
      exact .inl rfl
    · cases read
      exact .inl rfl
    · cases read
      exact .inl rfl
  | places number fraction leading accepted =>
    dsimp only at read
    split_ifs at read
    · obtain ⟨pushed, -, read⟩ := bind_eq_ok.mp read
      cases read
      exact .inl rfl
    · cases read
      exact .inl rfl
    · obtain ⟨finished, -, read⟩ := bind_eq_ok.mp read
      cases read
      exact .inl rfl
  | unit number fraction letters =>
    dsimp only at read
    split_ifs at read
    · obtain ⟨sum', added, read⟩ := bind_eq_ok.mp read
      cases read
      exact .inr ⟨_, added⟩
    · obtain ⟨sum', added, read⟩ := bind_eq_ok.mp read
      cases read
      exact .inr ⟨_, added⟩
    · cases read
      exact .inl rfl

theorem foldlM_le {cs : List Char} (read : cs.foldlM readChar st = .ok st') :
    st.sum.total ≤ st'.sum.total := by
  induction cs generalizing st with
  | nil =>
    cases read
    exact Nat.le_refl _
  | cons c cs ih =>
    rw [List.foldlM_cons] at read
    obtain ⟨next, first, read⟩ := bind_eq_ok.mp read
    exact Nat.le_trans (readChar_extends first).le (ih read)

theorem finish_extends (ended : st.finish = .ok t) : Extends st.sum t := by
  obtain ⟨offset, phase, sum⟩ := st
  unfold ReadState.finish at ended
  cases phase with
  | before since =>
    cases ended
    exact .inl rfl
  | whole number => exact .inr ⟨_, ended⟩
  | places number fraction leading accepted =>
    obtain ⟨finished, -, ended⟩ := bind_eq_ok.mp ended
    exact .inr ⟨_, ended⟩
  | unit number fraction letters => exact .inr ⟨_, ended⟩

/-- While a text is read, what has been added up stays below what comes out at its end. -/
theorem exists_partial_sum {front back : List Char} (read :
    ((front ++ back).foldlM readChar st >>= ReadState.finish) = .ok t) :
    ∃ st', front.foldlM readChar st = .ok st' ∧ st'.sum.total ≤ t.total := by
  obtain ⟨last, folded, ended⟩ := bind_eq_ok.mp read
  rw [List.foldlM_append] at folded
  obtain ⟨middle, begun, folded⟩ := bind_eq_ok.mp folded
  exact ⟨middle, begun, Nat.le_trans (foldlM_le folded) (finish_extends ended).le⟩

/-- Reading a phrase adds up the seconds and nanoseconds that it was made from. -/
theorem summed_phrase (d : Duration) :
    (d.phrase.toList.foldlM readChar ⟨0, .before 0, {}⟩ >>= ReadState.finish) =
      .ok ⟨d.seconds, d.subsecond⟩ := by
  obtain ⟨p, parts, words, legible, added⟩ := phrase_eq_joined d
  rw [words, read_parts (List.cons_ne_nil p parts) legible 0, added]

theorem total_of_parts (d : Duration) : Sum.total ⟨d.seconds, d.subsecond⟩ = d.nanos :=
  Nat.div_add_mod' d.nanos 1000000000

theorem flat_duration (d : Duration) : (Json.duration d).nesting = 0 := rfl

theorem decode_written (d : Duration) (s : Json.Scope) :
    Json.Decode.duration s (.of (Json.duration d)) = .ok d := by
  have flat := flat_duration d
  exact (Json.Recovers.duration d).decoded s (by omega)

theorem decodeText_written (d : Duration) :
    Json.decodeText Json.Decode.duration (Json.duration d).compact = .ok d := by
  have flat := flat_duration d
  exact Json.decodeText_compact (Json.Recovers.duration d) (by omega)

/-- Every duration is read back from its phrase, in a text of its own and wherever it is a value of
a document. Wherever one stops in a phrase, reading has come so far without a fault, and what has
been added up by then is no more than the duration. So reading, writing and reading again is
reading. -/
theorem durations_survive :
    (∀ d : Duration, ofPhrase d.phrase = .ok d ∧
      Json.decodeText Json.Decode.duration (Json.duration d).compact = .ok d ∧
      (∀ s, Json.Decode.duration s (.of (Json.duration d)) = .ok d) ∧
      ∀ front back, d.phrase.toList = front ++ back →
        ∃ st, front.foldlM readChar ⟨0, .before 0, {}⟩ = .ok st ∧ st.sum.total ≤ d.nanos) ∧
    (∀ text d, ofPhrase text = .ok d → ofPhrase d.phrase = .ok d) ∧
    (∀ text d, Json.decodeText Json.Decode.duration text = .ok d →
      Json.decodeText Json.Decode.duration (Json.duration d).compact = .ok d) ∧
    ∀ s v d, Json.Decode.duration s v = .ok d →
      Json.Decode.duration s (.of (Json.duration d)) = .ok d := by
  refine ⟨?_, fun _ d _ => ofPhrase_phrase d, fun _ d _ => decodeText_written d,
    fun s _ d _ => decode_written d s⟩
  intro d
  refine ⟨ofPhrase_phrase d, decodeText_written d, decode_written d, ?_⟩
  intro front back cut
  have summed := d.summed_phrase
  rw [cut] at summed
  obtain ⟨st, read, le⟩ := exists_partial_sum summed
  rw [total_of_parts] at le
  exact ⟨st, read, le⟩

/-- The longest duration, and one that was put otherwise than it is written. -/
theorem durations_survive_of_longest :
    ofPhrase (Duration.phrase ⟨limit - 1, by decide⟩) = .ok ⟨limit - 1, by decide⟩ ∧
    ofPhrase "2min 0.5h 90 s" = .ok (.ofSeconds 2010) ∧
    ofPhrase (Duration.ofSeconds 2010).phrase = .ok (.ofSeconds 2010) := by
  have read : ofPhrase "2min 0.5h 90 s" = .ok (.ofSeconds 2010) := by decide +kernel
  exact ⟨(durations_survive.1 _).1, read, durations_survive.2.1 _ _ read⟩

end PrecheckLoad.Duration
