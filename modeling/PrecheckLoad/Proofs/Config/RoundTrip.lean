import PrecheckLoad.Proofs.Config.Parts

/-!
# Configurations survive being written

A configuration is read back from its own text exactly if the text opens no more brackets at a time
than a reader allows, and whatever has been read opens no more. So reading, writing and reading
again is reading.
-/
namespace PrecheckLoad

open Json

namespace Config

theorem parse_eq_ok {text : String} {c : Config} :
    parse text = .ok c ↔ decodeText Config.record.read text = .ok c := by
  rw [parse, mapError_eq_ok]

/-- What has been read is shallow enough to be read back. -/
theorem shallow_of_parse {text : String} {c : Config} (read : parse text = .ok c) :
    c.toJson.nesting ≤ maxLevels := by
  obtain ⟨d, decoded, ended⟩ := bind_eq_ok.mp (parse_eq_ok.mp read)
  dsimp only at ended
  split at ended
  · cases ended
  · cases ended
    exact nesting_le_of_read decoded

theorem parse_of_shallow {c : Config} (shallow : c.toJson.nesting ≤ maxLevels) :
    parse c.write = .ok c := by
  rw [parse_eq_ok, write]
  exact decodeText_pretty c.recovers shallow

/-- Nothing but depth keeps a configuration from coming back. -/
theorem parse_write_eq_ok_iff {c : Config} :
    parse c.write = .ok c ↔ c.toJson.nesting ≤ maxLevels :=
  ⟨shallow_of_parse, parse_of_shallow⟩

/-- Writing loses nothing: a configuration comes back from its text if the text stays within the
levels of a reader, as that of every configuration does that has been read. -/
theorem parse_write : (∀ c : Config, c.toJson.nesting ≤ maxLevels → parse c.write = .ok c) ∧
    ∀ (text : String) (c : Config), parse text = .ok c →
      c.toJson.nesting ≤ maxLevels ∧ parse c.write = .ok c := by
  refine ⟨fun c => parse_of_shallow, fun text c read => ?_⟩
  have shallow := shallow_of_parse read
  exact ⟨shallow, parse_of_shallow shallow⟩

/-- Every part that may be left out is there, and the texts need escapes. -/
def intricate : Config where
  name := "caf\u00e9 \"rush\" \\ \n\x01"
  baseUrl := "http://localhost:8080/"
  stages := [⟨.ofMillis 90061007, 3⟩, ⟨.zero, 0⟩]
  ramp := .linear
  thresholds := [⟨"http_req_failed", "rate<0.01", [409, 429], none⟩,
    ⟨"checks", "rate>0.9", [], some "a \"quoted\" check"⟩]
  pattern := { profiles := [.forcedFailure { scope := .user },
    .spoofedHeader { userAgent := some "Bot\t1" }] }
  checks := [⟨"accepted", .not (.all [.any [.statusIs 500, .statusIn [502, 503]],
    .bodyContains "\"error\":"])⟩]
  pacing := .jittered (.ofMillis 1500) (.ofMillis 1)
  maxRate := some ⟨4294967295, by decide, by decide⟩
  seed := some 18446744073709551615

theorem parse_write_of_intricate : intricate.toJson.nesting ≤ maxLevels ∧
    parse intricate.write = .ok intricate ∧ ∃ text, parse text = .ok intricate ∧
      intricate.toJson.nesting ≤ maxLevels ∧ parse intricate.write = .ok intricate := by
  have shallow : intricate.toJson.nesting ≤ maxLevels := by decide
  have read := parse_write.1 intricate shallow
  exact ⟨shallow, read, intricate.write, read, parse_write.2 intricate.write intricate read⟩

end Config
end PrecheckLoad
