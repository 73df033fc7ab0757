import PrecheckLoad.CommandLine.Reader
import PrecheckLoad.Proofs.Decimal.Digits
import PrecheckLoad.Proofs.Fallible

/-!
# Options as they are given

Whatever a run is to be prepared from, and whatever is to be changed in it, there are arguments that
say so: one for each option that has a value, with the value attached to it, and one for each
profile. They are read as those options, with the profiles in their order.
-/
namespace PrecheckLoad.CommandLine

open Text Decimal

variable {o : Options} {item : Item}

/-- An option with its value attached. -/
def Item.argument (item : Item) (v : String) : String := "--" ++ item.name ++ "=" ++ v

theorem Item.ofName?_name (item : Item) : Item.ofName? item.name = some item := by
  cases item <;> decide

theorem Item.not_mem_name (item : Item) : '=' ∉ item.name.toList := by
  cases item <;> decide

theorem Item.toList_argument (item : Item) (v : String) :
    (item.argument v).toList = '-' :: '-' :: (item.name.toList ++ '=' :: v.toList) := by
  simp [argument, String.toList_append]

theorem readLong_attached (takes : item.takesValue = true) (o : Options) (v : String) :
    ({ options := o } : Reading).readLong (item.name.toList ++ '=' :: v.toList) =
      o.setValue item v >>= fun o => pure { options := o } := by
  have free : ∀ c ∈ item.name.toList, decide (c ≠ '=') = true := fun c mem =>
    decide_eq_true fun same => item.not_mem_name (same ▸ mem)
  have front : (item.name.toList ++ '=' :: v.toList).takeWhile (· ≠ '=') = item.name.toList := by
    rw [List.takeWhile_append_of_pos free, List.takeWhile_cons_of_neg (by decide), List.append_nil]
  have back : (item.name.toList ++ '=' :: v.toList).dropWhile (· ≠ '=') = '=' :: v.toList := by
    rw [List.dropWhile_append_of_pos free, List.dropWhile_cons_of_neg (by decide)]
  unfold Reading.readLong
  rw [front, back]
  simp only [String.ofList_toList, item.ofName?_name]
  have settled : ({ options := o } : Reading).settle = .ok o := rfl
  rw [Reading.take, if_pos takes, settled, ok_bind]

theorem read_argument (takes : item.takesValue = true) (o : Options) (v : String)
    (rest : List String) : ({ options := o } : Reading).read (item.argument v :: rest) =
      o.setValue item v >>= fun o => ({ options := o } : Reading).read rest := by
  obtain ⟨c, cs, shape⟩ : ∃ c cs, item.name.toList ++ '=' :: v.toList = c :: cs :=
    List.exists_cons_of_ne_nil (List.append_ne_nil_of_right_ne_nil _ (List.cons_ne_nil _ _))
  have long := readLong_attached takes o v
  conv_lhs => unfold Reading.read
  rw [item.toList_argument, shape]
  show ({ options := o } : Reading).readLong (c :: cs) >>= (fun r => r.read rest) = _
  rw [← shape, long, bind_assoc]
  rfl

/-- Arguments with values attached are taken one after the other. -/
theorem read_arguments {given : List (Item × String)}
    (take : ∀ g ∈ given, g.1.takesValue = true) (o : Options) :
    ({ options := o } : Reading).read (given.map fun g => g.1.argument g.2) =
      given.foldlM (fun o g => o.setValue g.1 g.2) o := by
  induction given generalizing o with
  | nil => rfl
  | cons g rest ih =>
    rw [List.forall_mem_cons] at take
    rw [List.map_cons, read_argument take.1, List.foldlM_cons]
    exact congrArg _ (funext (ih take.2))

theorem readNat?_toString {n limit : Nat} (small : n < limit) :
    readNat? limit (toString n) = some n := by
  have digits : ∀ c ∈ digitChars n, isDigit c = true := fun c => isDigit_of_mem_digitChars
  have numeral : ((digitChars n).isEmpty || !(digitChars n).all isDigit) = false := by
    rw [List.all_eq_true.mpr digits, List.isEmpty_eq_false_iff.mpr (digitChars_ne_nil n)]
    rfl
  unfold readNat?
  rw [Nat.toString_eq_ofList_toDigits, String.toList_ofList, ← digitChars]
  dsimp only
  split
  · next ds signed =>
    have foreign : isDigit '+' = false := by decide
    rw [digits '+' (signed ▸ List.mem_cons_self)] at foreign
    cases foreign
  · rw [numeral, natOfDigits_digitChars, if_pos small]
    rfl

theorem ofText_preset (p : Preset) : (Preset.ofText p.name).toOption = some p := by
  cases p <;> decide

theorem ofText_profile (k : ProfileKind) : (ProfileKind.ofText k.name).toOption = some k := by
  cases k <;> decide

namespace Options

theorem setValue_config {path : String} (unset : o.config = none) (named : path ≠ "") :
    o.setValue .config path = .ok { o with config := some path } := by
  have some_path : ¬ path.isEmpty = true := by simpa using named
  rw [setValue, unset, if_neg some_path]
  rfl

theorem setValue_preset (p : Preset) (unset : o.preset = none) :
    o.setValue .preset p.name = .ok { o with preset := some p } := by
  rw [setValue, unset, ofText_preset]
  rfl

theorem setValue_baseUrl (url : String) (unset : o.baseUrl = none) :
    o.setValue .baseUrl url = .ok { o with baseUrl := some url } := by
  rw [setValue, unset]
  rfl

theorem setValue_seed (s : UInt64) (unset : o.seed = none) :
    o.setValue .seed (toString s.toNat) = .ok { o with seed := some s } := by
  rw [setValue, unset, readNat?_toString s.toNat_lt, Option.map_some, UInt64.ofNat_toNat]
  rfl

theorem setValue_profile (o : Options) (k : ProfileKind) :
    o.setValue .profile k.name = .ok { o with profiles := o.profiles ++ [k] } := by
  rw [setValue, ofText_profile]
  rfl

/-- What a run is prepared from and what is changed in it, each with its value. -/
def given (o : Options) : List (Item × String) :=
  o.config.toList.map (fun path => (.config, path)) ++
    (o.preset.toList.map (fun p => (.preset, p.name)) ++
    (o.baseUrl.toList.map (fun url => (.baseUrl, url)) ++
    (o.seed.toList.map (fun s => (.seed, toString s.toNat)) ++
    o.profiles.map (fun k => (.profile, k.name)))))

def arguments (o : Options) : List String := o.given.map fun g => g.1.argument g.2

/-- Options that ask for one run and nothing else. -/
structure Plain (o : Options) : Prop where
  source : o.config = none ∨ o.preset = none
  path : o.config ≠ some ""
  address : o.metricsAddress = none
  json : o.json = false
  listPresets : o.listPresets = false

/-- Takes what is given, from left to right. -/
def takeAll (o : Options) (given : List (Item × String)) : Except ArgumentFault Options :=
  given.foldlM (fun o g => o.setValue g.1 g.2) o

theorem takeAll_append {o o' : Options} {front rest : List (Item × String)}
    (taken : o.takeAll front = .ok o') : o.takeAll (front ++ rest) = o'.takeAll rest := by
  rw [takeAll] at taken
  rw [takeAll, List.foldlM_append, taken]
  rfl

/-- An option that is given once, if at all. -/
theorem takeAll_toList {α : Type} {o o' : Options} {x : Option α} {item : Item}
    {text : α → String} (unset : x = none → o = o')
    (set : ∀ a, x = some a → o.setValue item (text a) = .ok o') :
    o.takeAll (x.toList.map fun a => (item, text a)) = .ok o' := by
  cases x with
  | none => exact congrArg _ (unset rfl)
  | some a =>
    have first := set a rfl
    simp [takeAll, first]

theorem takeAll_profiles (o : Options) (ks : List ProfileKind) :
    o.takeAll (ks.map fun k => (.profile, k.name)) =
      .ok { o with profiles := o.profiles ++ ks } := by
  induction ks generalizing o with
  | nil =>
    rw [List.append_nil]
    rfl
  | cons k ks ih =>
    rw [List.map_cons, takeAll, List.foldlM_cons, o.setValue_profile k, ok_bind, ← takeAll, ih,
      List.append_assoc, List.singleton_append]

theorem takeAll_given (plain : o.Plain) : ({} : Options).takeAll o.given = .ok o := by
  obtain ⟨config, preset, baseUrl, seed, profiles, address, json, listPresets⟩ := o
  obtain ⟨-, path, rfl, rfl, rfl⟩ := plain
  have first : ({} : Options).takeAll (config.toList.map fun path => (.config, path)) =
      .ok { config } := by
    refine takeAll_toList (by rintro rfl; rfl) ?_
    rintro a rfl
    exact setValue_config rfl (fun empty => path (empty ▸ rfl))
  have second : ({ config } : Options).takeAll (preset.toList.map fun p => (.preset, p.name)) =
      .ok { config, preset } :=
    takeAll_toList (by rintro rfl; rfl) (by rintro p rfl; exact setValue_preset p rfl)
  have third : ({ config, preset } : Options).takeAll
      (baseUrl.toList.map fun url => (.baseUrl, url)) = .ok { config, preset, baseUrl } :=
    takeAll_toList (by rintro rfl; rfl) (by rintro url rfl; exact setValue_baseUrl url rfl)
  have fourth : ({ config, preset, baseUrl } : Options).takeAll
      (seed.toList.map fun s => (.seed, toString s.toNat)) =
      .ok { config, preset, baseUrl, seed } :=
    takeAll_toList (by rintro rfl; rfl) (by rintro s rfl; exact setValue_seed s rfl)
  rw [given, takeAll_append first, takeAll_append second, takeAll_append third,
    takeAll_append fourth, takeAll_profiles, List.nil_append]

theorem given_takesValue (o : Options) : ∀ g ∈ o.given, g.1.takesValue = true := by
  intro g mem
  simp only [given, List.mem_append, List.mem_map] at mem
  rcases mem with ⟨_, -, rfl⟩ | ⟨_, -, rfl⟩ | ⟨_, -, rfl⟩ | ⟨_, -, rfl⟩ | ⟨_, -, rfl⟩ <;> rfl

/-- What is given is read as it was meant. -/
theorem parse_arguments (plain : o.Plain) : parse o.arguments = .ok o := by
  have read : ({} : Reading).read o.arguments = .ok o := by
    rw [arguments, read_arguments o.given_takesValue]
    exact takeAll_given plain
  have one : (o.config.isSome && o.preset.isSome) = false := by
    rcases plain.source with none | none
    · rw [none]
      rfl
    · rw [none, Option.isSome_none, Bool.and_false]
  unfold parse
  rw [read, ok_bind, one]
  rfl

theorem one_source_of_parse {args : List String} (accepted : parse args = .ok o) :
    o.config = none ∨ o.preset = none := by
  unfold parse at accepted
  obtain ⟨o', -, accepted⟩ := bind_eq_ok.mp accepted
  split at accepted
  · cases accepted
  · next one =>
    cases accepted
    cases named : o.config with
    | none => exact .inl rfl
    | some path =>
      cases chosen : o.preset with
      | none => exact .inr rfl
      | some p => simp [named, chosen] at one

end Options
end PrecheckLoad.CommandLine
