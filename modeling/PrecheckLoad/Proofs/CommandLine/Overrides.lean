import PrecheckLoad.CommandLine.Prepare
import PrecheckLoad.Proofs.CommandLine.Arguments
import PrecheckLoad.Proofs.Config.RoundTrip
import PrecheckLoad.Proofs.Config.Validation
import PrecheckLoad.Proofs.Pattern.Acceptance
import PrecheckLoad.Run

/-!
# What options change

A run is prepared from a file or a preset. The address, the seed and the profiles are those that the
options name, if they name them, and nothing else is changed. Preparing fails only where there is no
source, where the file cannot be read, or where what comes out is refused. Profiles that options
name have parameters that mean something, so of them it is only asked that they go together.
-/
namespace PrecheckLoad

namespace ProfileKind

@[simp] theorem kind_profile (k : ProfileKind) : k.profile.kind = k := by
  cases k <;> rfl

theorem valid_profile (k : ProfileKind) : k.profile.Valid := by
  cases k with
  | uniformRandom => exact .uniformRandom _ (by decide)
  | fixedIdentity => exact .fixedIdentity _ (by decide)
  | duplicate => exact .duplicate _ (by decide)
  | forcedFailure => exact .forcedFailure _ (by decide) (by decide)
  | spoofedHeader => exact .spoofedHeader _ (by decide) (fun _ => by decide)

/-- Kinds that do not exclude each other. -/
structure Combine (ks : List ProfileKind) : Prop where
  distinct : ks.Nodup
  base : (ks.filter isIdentityBase).length ≤ 1

theorem compatible_profiles_iff {ks : List ProfileKind} :
    Compatible (ks.map profile) ↔ Combine ks := by
  have kinds : (ks.map profile).map Profile.kind = ks := by
    rw [List.map_map]
    exact List.map_id'' kind_profile ks
  have bases : ((ks.map profile).filter (·.kind.isIdentityBase)).length =
      (ks.filter isIdentityBase).length := by
    rw [List.filter_map, List.length_map]
    simp [Function.comp_def]
  constructor
  · rintro ⟨-, distinct, base⟩
    exact ⟨kinds ▸ distinct, bases ▸ base⟩
  · rintro ⟨distinct, base⟩
    refine ⟨?_, kinds.symm ▸ distinct, bases.symm ▸ base⟩
    intro p mem
    obtain ⟨k, -, rfl⟩ := List.mem_map.mp mem
    exact k.valid_profile

end ProfileKind

theorem Preset.config_baseUrl (p : Preset) (url : String) : (p.config url).baseUrl = url := by
  cases p <;> rfl

namespace CommandLine

/-- A file that holds the bytes of a text is read as that text. -/
theorem Place.readText_of_find {p : Place} {path text : String}
    (found : p.find path = .ok (.file (Text.encode text))) : p.readText path = .ok text := by
  rw [readText, found, ok_bind]
  dsimp only
  rw [Text.decode?_encode]
  rfl

variable {o : Options} {file : String → Except FileFault String} {loaded c c' : Config}

/-- Where a configuration comes from. A preset is made for the address that is named, if one is. -/
inductive Options.Loads (o : Options) (file : String → Except FileFault String) : Config → Prop
  | file (path text : String) (c : Config) (named : o.config = some path)
    (read : file path = .ok text) (parsed : Config.parse text = .ok c) : Loads o file c
  | preset (p : Preset) (without : o.config = none) (named : o.preset = some p) :
    Loads o file (p.config (o.baseUrl.getD defaultBaseUrl))

/-- A configuration that has what the options name, and everything else as it was loaded: with the
three parts put back it is the same. -/
structure Options.Changes (o : Options) (loaded c : Config) : Prop where
  baseUrl : c.baseUrl = o.baseUrl.getD loaded.baseUrl
  seed : c.seed = o.seed.or loaded.seed
  kept : o.profiles = [] → c.pattern.profiles = loaded.pattern.profiles
  replaced : o.profiles ≠ [] → c.pattern.profiles = o.profiles.map ProfileKind.profile
  rest : { c with
    baseUrl := loaded.baseUrl
    seed := loaded.seed
    pattern := { c.pattern with profiles := loaded.pattern.profiles } } = loaded

namespace Options

theorem changes_override (o : Options) (loaded : Config) :
    o.Changes loaded (o.override { loaded with baseUrl := o.baseUrl.getD loaded.baseUrl }) := by
  unfold override
  by_cases none : o.profiles = []
  · rw [if_pos (List.isEmpty_iff.mpr none)]
    exact ⟨rfl, rfl, fun _ => rfl, fun some_profile => absurd none some_profile, rfl⟩
  · rw [if_neg fun empty => none (List.isEmpty_iff.mp empty)]
    exact ⟨rfl, rfl, fun empty => absurd empty none, fun _ => rfl, rfl⟩

theorem Changes.eq (changes : o.Changes loaded c) : c = { loaded with
    baseUrl := c.baseUrl
    seed := c.seed
    pattern := { loaded.pattern with profiles := c.pattern.profiles } } := by
  conv_rhs => rw [← changes.rest]

theorem Changes.unique (changes : o.Changes loaded c) (changes' : o.Changes loaded c') :
    c = c' := by
  have profiles : c.pattern.profiles = c'.pattern.profiles := by
    by_cases none : o.profiles = []
    · rw [changes.kept none, changes'.kept none]
    · rw [changes.replaced none, changes'.replaced none]
  rw [changes.eq, changes'.eq, changes.baseUrl, changes'.baseUrl, changes.seed, changes'.seed,
    profiles]

theorem changes_iff : o.Changes loaded c ↔
    o.override { loaded with baseUrl := o.baseUrl.getD loaded.baseUrl } = c := by
  constructor
  · exact (changes_override o loaded).unique
  · rintro rfl
    exact changes_override o loaded

/-- A preset has the address that it was made for already. -/
theorem preset_named (o : Options) (p : Preset) :
    { p.config (o.baseUrl.getD defaultBaseUrl) with
      baseUrl := o.baseUrl.getD (p.config (o.baseUrl.getD defaultBaseUrl)).baseUrl } =
      p.config (o.baseUrl.getD defaultBaseUrl) := by
  have address : o.baseUrl.getD (p.config (o.baseUrl.getD defaultBaseUrl)).baseUrl =
      (p.config (o.baseUrl.getD defaultBaseUrl)).baseUrl := by
    rw [p.config_baseUrl]
    cases o.baseUrl with
    | none => rfl
    | some url => rfl
  rw [address]

theorem source_eq_ok_iff : o.source file = .ok c ↔
    ∃ loaded, o.Loads file loaded ∧
      { loaded with baseUrl := o.baseUrl.getD loaded.baseUrl } = c := by
  unfold source
  cases named : o.config with
  | some path =>
    dsimp only
    simp only [bind_eq_ok, mapError_eq_ok]
    constructor
    · rintro ⟨text, read, loaded, parsed, made⟩
      cases made
      exact ⟨loaded, .file path text loaded named read parsed, rfl⟩
    · rintro ⟨loaded, loads, rfl⟩
      cases loads with
      | file path' text _ named' read parsed =>
        cases named.symm.trans named'
        exact ⟨text, read, loaded, parsed, rfl⟩
      | preset p without => cases named.symm.trans without
  | none =>
    cases chosen : o.preset with
    | some p =>
      constructor
      · intro made
        cases made
        exact ⟨_, .preset p named chosen, o.preset_named p⟩
      · rintro ⟨loaded, loads, rfl⟩
        cases loads with
        | file path text _ named' => cases named.symm.trans named'
        | preset p' without chosen' =>
          cases chosen.symm.trans chosen'
          rw [o.preset_named p]
    | none =>
      constructor
      · intro made
        cases made
      · rintro ⟨loaded, loads, -⟩
        cases loads with
        | file path text _ named' => cases named.symm.trans named'
        | preset p without chosen' => cases chosen.symm.trans chosen'

theorem prepare_eq_ok_iff : o.prepare file = .ok c ↔
    (∃ loaded, o.Loads file loaded ∧ o.Changes loaded c) ∧ c.validate = .ok () := by
  unfold prepare
  simp only [bind_eq_ok, mapError_eq_ok, source_eq_ok_iff, changes_iff]
  constructor
  · rintro ⟨_, ⟨loaded, loads, rfl⟩, ⟨⟩, valid, made⟩
    cases made
    exact ⟨⟨loaded, loads, rfl⟩, valid⟩
  · rintro ⟨⟨loaded, loads, rfl⟩, valid⟩
    exact ⟨_, ⟨loaded, loads, rfl⟩, (), valid, rfl⟩

/-- Of profiles that are named by kind it is asked that their kinds combine. -/
theorem Changes.pattern_validate_iff (changes : o.Changes loaded c)
    (some_profile : o.profiles ≠ []) :
    c.pattern.validate = .ok () ↔ ProfileKind.Combine o.profiles ∧
      loaded.pattern.body.userField ≠ "" ∧ loaded.pattern.body.productField ≠ "" := by
  have body : c.pattern.body = loaded.pattern.body := by rw [changes.eq]
  rw [Pattern.validate_eq_ok, wellFormed_iff_compatible, changes.replaced some_profile,
    ProfileKind.compatible_profiles_iff, body]
  tauto

end Options

/-- A run can be made of every configuration that is accepted. -/
theorem exists_ofConfig (valid : c.validate = .ok ()) :
    ∃ t, LoadTest.ofConfig c = .ok t ∧ t.config = c := by
  obtain ⟨ts, compiled⟩ := (Config.validate_eq_ok.mp valid).thresholds
  refine ⟨⟨c, ts, c.checks.map CheckSpec.check⟩, ?_, rfl⟩
  rw [LoadTest.ofConfig, valid, ok_bind, compiled]
  rfl

/-- Options that ask for one run can be given as arguments, and none name two sources. They prepare
exactly the run that is loaded from the source they name, with what they name in it changed, if that
is accepted. Where they name profiles, these stand in the given order with the parameters of their
kinds, and the pattern is accepted exactly if the kinds combine and the fields that were loaded have
names. -/
theorem prepares_iff_valid (o : Options) (file : String → Except FileFault String) :
    (o.Plain → parse o.arguments = .ok o) ∧
    (∀ args, parse args = .ok o → o.config = none ∨ o.preset = none) ∧
    (∀ c, o.prepare file = .ok c ↔
      (∃ loaded, o.Loads file loaded ∧ o.Changes loaded c) ∧ c.validate = .ok ()) ∧
    (∀ loaded, ∃! c, o.Changes loaded c) ∧
    (∀ c, o.prepare file = .ok c → ∃ t, LoadTest.ofConfig c = .ok t ∧ t.config = c) ∧
    (o.profiles ≠ [] → ∀ loaded c, o.Changes loaded c →
      (c.pattern.validate = .ok () ↔ ProfileKind.Combine o.profiles ∧
        loaded.pattern.body.userField ≠ "" ∧ loaded.pattern.body.productField ≠ "")) := by
  refine ⟨Options.parse_arguments, fun args => Options.one_source_of_parse,
    fun c => Options.prepare_eq_ok_iff, fun loaded => ?_, fun c prepared => ?_,
    fun some_profile loaded c changes => ?_⟩
  · refine ⟨_, o.changes_override loaded, fun c changes => ?_⟩
    exact changes.unique (o.changes_override loaded)
  · exact exists_ofConfig (Options.prepare_eq_ok_iff.mp prepared).2
  · exact changes.pattern_validate_iff some_profile

/-- The one layer of a preset is replaced by two others, and its address by another. -/
def replacing : Options where
  preset := some .attackSingleUser
  baseUrl := some "https://shop.example"
  seed := some 3
  profiles := [.duplicate, .forcedFailure]

/-- Two kinds that exclude each other. -/
def excluding : Options where
  preset := some .basic
  profiles := [.fixedIdentity, .uniformRandom]

/-- A run that lies in a file. -/
def stored : Config where
  name := "stored"
  baseUrl := "http://localhost:3000"
  stages := [⟨.ofSeconds 1, 1⟩]
  pattern := { profiles := [.duplicate 5] }
  seed := some 8

/-- The only file of its directory. -/
def shelf : Place where
  here := [("run.json", .file (Text.encode stored.write))]

/-- The seed of the file is replaced, and nothing else. -/
def reseeding : Options where
  config := some "./run.json"
  seed := some 3

theorem prepares_iff_valid_of_replacing :
    parse ["--preset=attack-single-user", "--base-url=https://shop.example", "--seed=3",
      "--profile=duplicate-injection", "--profile=forced-failure-injection"] = .ok replacing ∧
    (∃ c t, replacing.prepare (fun _ => .error .notFound) = .ok c ∧ LoadTest.ofConfig c = .ok t ∧
      c.baseUrl = "https://shop.example" ∧ c.seed = some 3 ∧
      c.pattern.profiles = [.duplicate 7, .forcedFailure {}]) ∧
    excluding.profiles ≠ [] ∧ (∀ c, excluding.prepare (fun _ => .error .notFound) ≠ .ok c) ∧
    parse ["--config=./run.json", "--seed=3"] = .ok reseeding ∧
    reseeding.prepare shelf.readText = .ok { stored with seed := some 3 } := by
  obtain ⟨reads, -, prepares, -, runs, -⟩ :=
    prepares_iff_valid replacing fun _ => .error .notFound
  obtain ⟨-, -, prepares', -, -, combine⟩ :=
    prepares_iff_valid excluding fun _ => .error .notFound
  obtain ⟨reads_file, -, prepares_file, -⟩ := prepares_iff_valid reseeding shelf.readText
  have excluded : excluding.profiles ≠ [] := List.cons_ne_nil _ _
  refine ⟨?_, ?_, excluded, fun c prepared => ?_, ?_, ?_⟩
  · exact reads ⟨.inl rfl, by decide, rfl, rfl, rfl⟩
  · have loads : replacing.Loads (fun _ => .error .notFound) _ := .preset .attackSingleUser rfl rfl
    have valid := Config.valid_of_isOk (c := replacing.override
      (Preset.attackSingleUser.config "https://shop.example")) (by decide +kernel)
    have prepared := (prepares _).mpr ⟨⟨_, loads, replacing.changes_override _⟩, valid⟩
    obtain ⟨t, made, -⟩ := runs _ prepared
    exact ⟨_, t, prepared, made, rfl, rfl, rfl⟩
  · obtain ⟨⟨loaded, -, changes⟩, valid⟩ := (prepares' c).mp prepared
    have pattern := (Config.validate_eq_ok.mp valid).pattern
    have base := ((combine excluded loaded c changes).mp pattern).1.base
    revert base
    decide
  · exact reads_file ⟨.inr rfl, by decide, rfl, rfl, rfl⟩
  · have loads : reseeding.Loads shelf.readText stored :=
      .file "./run.json" stored.write stored rfl (Place.readText_of_find rfl)
        (Config.parse_of_shallow (by decide))
    have valid := Config.valid_of_isOk (c := { stored with seed := some 3 }) (by decide +kernel)
    exact (prepares_file _).mpr ⟨⟨stored, loads, reseeding.changes_override stored⟩, valid⟩

end CommandLine
end PrecheckLoad
