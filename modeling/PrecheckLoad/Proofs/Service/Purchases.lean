import PrecheckLoad.Proofs.Json.Decoding
import PrecheckLoad.Proofs.Text.Parts
import PrecheckLoad.Service

/-!
# Purchases that are read from what was written

A service reads off a compact body who wants to buy and what, whatever the characters of both, and
whichever of its two names the product goes by. A body without a buyer is read as well.
-/
namespace PrecheckLoad
namespace Purchase

open Json

variable {v : Json} {p : Purchase}

theorem read_compact (h : Recovers record.read v p) (shallow : v.nesting ≤ maxLevels) :
    Purchase.read (Text.encode v.compact) = some p := by
  have text : bodyText (Text.encode v.compact) = v.compact := by
    simp only [bodyText, Text.decode?_encode]
  rw [Purchase.read, text, decodeText_compact h shallow]
  rfl

/-- The names under which a product is looked for. -/
def productNames : List String := ["product_id", "product"]

/-- The fields of a body, in the order of their names. -/
def written (name product : String) (user : Option String) : Json :=
  .object ((name, .string product) :: Json.present "user_id" (user.map .string))

theorem recovers_written {name : String} (known : name ∈ productNames) (product : String)
    (user : Option String) :
    Recovers record.read (written name product user)
      { user, product := some (.string product) } := by
  constructor
  · refine .object ?_
    cases user <;> simp [Exact.string, Json.present]
  · rintro ⟨levels, collected⟩ room
    have pos : 0 < levels := (nesting_object_le_iff.mp room).1
    obtain ⟨more, rfl⟩ : ∃ more, levels = more + 1 := ⟨levels - 1, by omega⟩
    simp only [productNames, List.mem_cons, List.not_mem_nil, or_false] at known
    rcases known with rfl | rfl
    all_goals cases user <;> rfl

theorem read_written {name : String} (known : name ∈ productNames) (product : String)
    (user : Option String) : Purchase.read (Text.encode (written name product user).compact) =
      some { user, product := some (.string product) } := by
  have flat : (written name product user).nesting = 1 := by cases user <;> rfl
  refine read_compact (recovers_written known product user) ?_
  rw [flat]
  decide

end Purchase
end PrecheckLoad
