import Mathlib.Data.List.Induction
import PrecheckLoad.Proofs.Pattern.Drafts

/-!
# Headers set one after the other

A draft starts without headers. However often headers are set, and however their names are spelled,
it has one for each name that was used: at the place and in the spelling of its first setting, with
the value of its last. A setting touches no header of another name and nothing else of the draft.
Looking up a name finds what was set last under it, as in a log that is read backwards.
-/
namespace PrecheckLoad

namespace Headers

variable {hs : Headers} {settings : List (String × String)} {name other value v : String}

/-- The names that are set, each at the place and in the spelling of its first setting. -/
def firstNames : List (String × String) → List String
  | [] => []
  | (name, _) :: later => name :: (firstNames later).filter fun n => !Text.sameName name n

/-- A setting adds a name only if it was not used before. -/
theorem firstNames_concat (settings : List (String × String)) (name value : String) :
    firstNames (settings ++ [(name, value)]) =
      if settings.any (fun s => Text.sameName s.1 name) then firstNames settings
      else firstNames settings ++ [name] := by
  induction settings with
  | nil => rfl
  | cons s later ih =>
    obtain ⟨first, w⟩ := s
    simp only [List.cons_append, firstNames, ih, List.any_cons, Bool.or_eq_true]
    by_cases again : later.any (fun s => Text.sameName s.1 name) = true
    · simp only [again, or_true, if_true]
    · cases same : Text.sameName first name with
      | true => simp [again, same]
      | false => simp [again, same]

theorem map_fst_set (hs : Headers) (name value : String) :
    (hs.set name value).map Prod.fst =
      if (hs.find? name).isSome then hs.map Prod.fst else hs.map Prod.fst ++ [name] := by
  induction hs with
  | nil => rfl
  | cons h hs ih =>
    obtain ⟨k, w⟩ := h
    rw [set, find?_cons]
    cases same : Text.sameName k name with
    | true => simp
    | false =>
      simp only [Bool.false_eq_true, if_false, List.map_cons, ih]
      split <;> rfl

/-- Where the header of another name stands, it stands still, and none comes to be. -/
theorem getElem?_set_other (hs : Headers) (apart : Text.sameName name other = false) (i : Nat) :
    (hs.set name value)[i]? = some (other, v) ↔ hs[i]? = some (other, v) := by
  have unequal : ∀ {k : String}, Text.sameName k name = true → k ≠ other := by
    rintro k here rfl
    rw [Text.sameName_comm, here] at apart
    cases apart
  induction hs generalizing i with
  | nil =>
    have first : name ≠ other := unequal (Text.sameName_self name)
    cases i with
    | zero => simp [set, first]
    | succ i => simp [set]
  | cons h hs ih =>
    obtain ⟨k, w⟩ := h
    rw [set]
    split
    · next here =>
      cases i with
      | zero => simp [unequal here]
      | succ i => simp
    · cases i with
      | zero => simp
      | succ i => simpa using ih i

theorem OneEach.find?_of_mem (each : hs.OneEach) {h : String × String} (mem : h ∈ hs) :
    hs.find? h.1 = some h.2 := by
  induction hs with
  | nil => cases mem
  | cons x hs ih =>
    obtain ⟨first, later⟩ := oneEach_cons_iff.mp each
    rcases List.mem_cons.mp mem with rfl | mem
    · rw [find?_cons, if_pos (Text.sameName_self h.1)]
    · have apart : ¬ Text.sameName x.1 h.1 = true := by
        rw [Text.sameName_comm, find?_eq_none_iff.mp first h mem]
        exact Bool.false_ne_true
      rw [find?_cons, if_neg apart, ih later mem]

/-- A name is found exactly if there is a header of it. -/
theorem isSome_find?_iff (hs : Headers) (name : String) :
    (hs.find? name).isSome = true ↔ ∃ h ∈ hs, Text.sameName h.1 name = true := by
  rw [find?, Option.isSome_map, List.find?_isSome]

end Headers

namespace Draft

open Headers

/-- A draft whose headers were set one after the other. -/
def ofSettings (identity : String) (settings : List (String × String)) : Draft :=
  settings.foldl (fun d s => d.setHeader s.1 s.2) { identity }

/-- Nothing of a draft changes but the header of one name. -/
structure ChangesOnly (name : String) (d e : Draft) : Prop where
  identity : e.identity = d.identity
  bodyIdentity : e.bodyIdentity = d.bodyIdentity
  others : ∀ other, Text.sameName name other = false → ∀ (i : Nat) (v : String),
    e.headers[i]? = some (other, v) ↔ d.headers[i]? = some (other, v)

theorem setHeader_changesOnly (d : Draft) (name value : String) :
    d.ChangesOnly name (d.setHeader name value) where
  identity := rfl
  bodyIdentity := rfl
  others _ apart i _ := getElem?_set_other d.headers apart i

/-- What settings have made of a draft that had no headers. -/
structure LeftBy (identity : String) (settings : List (String × String)) (d : Draft) : Prop where
  identity : d.identity = identity
  bodyIdentity : d.bodyIdentity = true
  each : d.headers.OneEach
  names : d.headers.map Prod.fst = firstNames settings
  found : ∀ name, d.headers.find? name = find? settings.reverse name

namespace LeftBy

variable {identity : String} {settings : List (String × String)} {d : Draft}

theorem isSome_find? (left : LeftBy identity settings d) (name : String) :
    (d.headers.find? name).isSome = settings.any (fun s => Text.sameName s.1 name) := by
  rw [left.found, Bool.eq_iff_iff, isSome_find?_iff, List.any_eq_true]
  simp only [List.mem_reverse]

theorem start (identity : String) : LeftBy identity [] { identity } :=
  ⟨rfl, rfl, oneEach_nil, rfl, fun _ => rfl⟩

theorem setHeader (left : LeftBy identity settings d) (name value : String) :
    LeftBy identity (settings ++ [(name, value)]) (d.setHeader name value) where
  identity := left.identity
  bodyIdentity := left.bodyIdentity
  each := left.each.set name value
  names := by
    rw [Draft.setHeader, map_fst_set, left.isSome_find?, left.names, firstNames_concat]
  found other := by
    rw [Draft.setHeader, List.reverse_concat, find?_cons]
    split
    · next same => exact find?_set_self _ same
    · next apart => rw [find?_set_other _ (Bool.eq_false_iff.mpr apart), left.found]

end LeftBy

theorem leftBy_ofSettings (identity : String) (settings : List (String × String)) :
    LeftBy identity settings (ofSettings identity settings) := by
  induction settings using List.reverseRecOn with
  | nil => exact .start identity
  | append_singleton settings s ih =>
    rw [ofSettings, List.foldl_append]
    exact ih.setHeader s.1 s.2

/-- A draft that starts without headers has those that were set: one for each name, which is there
exactly if it was used, at the place and in the spelling of its first setting, with the value of its
last. A request with these headers finds for every spelling what was set last, and the next setting
changes nothing but the header of its name. -/
theorem headers_of_settings (identity : String) (settings : List (String × String)) :
    (ofSettings identity settings).identity = identity ∧
    (ofSettings identity settings).bodyIdentity = true ∧
    (ofSettings identity settings).headers.OneEach ∧
    (∀ name, (∃ h ∈ (ofSettings identity settings).headers, Text.sameName h.1 name = true) ↔
      ∃ s ∈ settings, Text.sameName s.1 name = true) ∧
    (ofSettings identity settings).headers.map Prod.fst = firstNames settings ∧
    (∀ h ∈ (ofSettings identity settings).headers, find? settings.reverse h.1 = some h.2) ∧
    (∀ (request : Request) name,
      { request with headers := (ofSettings identity settings).headers }.header name =
        find? settings.reverse name) ∧
    ∀ name value, (ofSettings identity settings).ChangesOnly name
      ((ofSettings identity settings).setHeader name value) := by
  have left := leftBy_ofSettings identity settings
  refine ⟨left.identity, left.bodyIdentity, left.each, ?_, left.names, ?_, ?_, ?_⟩
  · intro name
    rw [← isSome_find?_iff, left.isSome_find?, List.any_eq_true]
  · intro h mem
    rw [← left.found, left.each.find?_of_mem mem]
  · intro request name
    exact left.found name
  · exact setHeader_changesOnly _

/-- The third setting names the first header anew. -/
example : (ofSettings "user-1-1"
    [("X-User-ID", "spoof_1"), ("User-Agent", "Bot-1"), ("x-user-id", "spoof_2")]).headers =
      [("X-User-ID", "spoof_2"), ("User-Agent", "Bot-1")] := by
  decide

end Draft
end PrecheckLoad
