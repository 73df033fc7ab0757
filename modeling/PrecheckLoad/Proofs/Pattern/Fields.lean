import PrecheckLoad.Proofs.Json.Objects
import PrecheckLoad.Proofs.Pattern.Bodies

/-!
# The fields of a body

A body is an object that names the buyer, unless a layer keeps him out, and the product. It is read
as that object whatever characters its names and values are made of. Validation asks of the two
names only that they are not empty. Where they are one name, the product takes the place of the
buyer, and nobody is named.
-/
namespace PrecheckLoad

/-- What a body tells under each name: the buyer, if there is one in it, and then the product, in
place of whatever was told under that name before. -/
def BodyShape.told (b : BodyShape) : Option String → String → Option Json
  | none => Function.update (fun _ => none) b.productField (some (.string b.product))
  | some buyer =>
    Function.update (Function.update (fun _ => none) b.userField (some (.string buyer)))
      b.productField (some (.string b.product))

namespace BodyShape

theorem told_product (b : BodyShape) (buyer : Option String) :
    b.told buyer b.productField = some (.string b.product) := by
  cases buyer with
  | none => rw [told, Function.update_self]
  | some who => rw [told, Function.update_self]

theorem told_buyer_iff (b : BodyShape) (who : String) :
    b.told (some who) b.userField = some (.string who) ↔
      b.userField ≠ b.productField ∨ who = b.product := by
  by_cases one : b.userField = b.productField
  · rw [one, told_product]
    simp [eq_comm]
  · rw [told, Function.update_of_ne one, Function.update_self]
    simp [one]

end BodyShape

/-- The body of a request is read as the value it was written from. -/
theorem Request.json?_eq {r : Request} {v : Json} (exact : Json.Exact v)
    (shallow : v.nesting ≤ Json.maxLevels) (body : r.body = Text.encode v.compact) :
    r.json? = some v.canonical := by
  have read := Json.decodeText_compact (Json.recovers_any exact) shallow
  unfold Request.json?
  rw [body, Text.decode?_encode]
  simp only [Option.bind_eq_bind, Option.bind_some, read]

namespace Pattern

variable {p : Pattern} {c : Context} {d : Draft}

/-- The buyer in the body, unless a layer keeps him out. -/
def buyer? (p : Pattern) (d : Draft) : Option String :=
  if ∀ l ∈ p.profiles, l.strips = false then some d.identity else none

theorem buyer?_of_draft (drafted : p.draft c = .ok d) :
    p.buyer? d = if d.bodyIdentity then some d.identity else none := by
  rw [buyer?]
  simp only [bodyIdentity_iff drafted]

/-- A text that is put into an object of texts leaves it one. -/
theorem texts_put {fields : List (String × Json)} (texts : ∀ f ∈ fields, ∃ s, f.2 = .string s)
    (name text : String) :
    ∀ f ∈ putEntry name (Json.string text) fields, ∃ s, f.2 = .string s := by
  intro f mem
  rcases mem_putEntry_cases mem with rfl | mem
  · exact ⟨text, rfl⟩
  · exact texts f mem

/-- The fields of a body are texts. -/
theorem exists_bodyFields (b : BodyShape) (d : Draft) : ∃ fields, bodyJson b d = .object fields ∧
    Tells fields (b.told (if d.bodyIdentity then some d.identity else none)) ∧
    ∀ f ∈ fields, ∃ s, f.2 = .string s := by
  rw [bodyJson, Json.sortedObject_eq]
  have start : ∀ f ∈ ([] : List (String × Json)), ∃ s, f.2 = .string s :=
    List.forall_mem_nil _
  cases d.bodyIdentity with
  | false => exact ⟨_, rfl, Tells.nil.put _ _, texts_put start _ _⟩
  | true =>
    exact ⟨_, rfl, (Tells.nil.put _ _).put _ _, texts_put (texts_put start _ _) _ _⟩

theorem json?_object {r : Request} {fields : List (String × Json)} (ascending : Ascending fields)
    (texts : ∀ f ∈ fields, ∃ s, f.2 = .string s)
    (body : r.body = Text.encode (Json.object fields).compact) :
    r.json? = some (.object fields) := by
  have exact : Json.Exact (.object fields) := .object fun f mem => by
    obtain ⟨s, text⟩ := texts f mem
    rw [text]
    exact .string s
  have shallow : (Json.object fields).nesting ≤ Json.maxLevels := by
    refine Json.nesting_object_le_iff.mpr ⟨by decide, fun f mem => ?_⟩
    obtain ⟨s, text⟩ := texts f mem
    rw [text]
    exact Nat.zero_le _
  have settled : ∀ f ∈ fields, f.2.canonical = f.2 := by
    intro f mem
    obtain ⟨s, text⟩ := texts f mem
    rw [text]
    rfl
  rw [Request.json?_eq exact shallow body, Json.canonical_object ascending settled]

/-- The object in the body of a request, and that it is read. -/
theorem exists_fields (drafted : p.draft c = .ok d) (url : String) : ∃ fields,
    (Draft.request p url d).body = Text.encode (Json.object fields).compact ∧
      (Draft.request p url d).json? = some (.object fields) ∧
      Tells fields (p.body.told (p.buyer? d)) := by
  obtain ⟨fields, shape, tells, texts⟩ := exists_bodyFields p.body d
  have body : (Draft.request p url d).body = Text.encode (Json.object fields).compact := by
    rw [Draft.request, shape]
  rw [buyer?_of_draft drafted]
  exact ⟨fields, body, json?_object tells.ascending texts body, tells⟩

/-- Where no layer keeps the buyer out, the object has the product under its name, and the buyer
under his if that is another or he goes by the name of the product. -/
theorem exists_named (drafted : p.draft c = .ok d) (kept : ∀ l ∈ p.profiles, l.strips = false)
    (url : String) : ∃ v, (Draft.request p url d).json? = some v ∧
      v.field? p.body.productField = some (.string p.body.product) ∧
      (v.field? p.body.userField = some (.string d.identity) ↔
        p.body.userField ≠ p.body.productField ∨ d.identity = p.body.product) := by
  obtain ⟨fields, -, read, tells⟩ := exists_fields drafted url
  have buyer : p.buyer? d = some d.identity := if_pos kept
  rw [buyer] at tells
  refine ⟨.object fields, read, ?_, ?_⟩
  · rw [Json.field?_of_tells tells, BodyShape.told_product]
  · rw [Json.field?_of_tells tells, BodyShape.told_buyer_iff]

/-- The body that an accepted pattern builds is read as the object that was written, which is the
only one in order that tells the buyer, unless a layer keeps him out, and the product. -/
theorem body_reads_back (p : Pattern) (accepted : p.validate = .ok ()) (c : Context)
    (url : String) : ∃ d r fields, p.draft c = .ok d ∧ p.Composed c d ∧ p.build c url = .ok r ∧
      r.body = Text.encode (Json.object fields).compact ∧ r.json? = some (.object fields) ∧
      ∀ others, Tells others (p.body.told (p.buyer? d)) ↔ others = fields := by
  obtain ⟨d, drafted, composed⟩ := exists_composed (validate_eq_ok.mp accepted).2.2 c
  obtain ⟨fields, body, read, tells⟩ := exists_fields drafted url
  exact ⟨d, _, fields, drafted, composed, build_of_draft url drafted, body, read,
    fun others => tells.iff_eq⟩

/-- Names, a buyer and a product that all need escaping. -/
def escaped : Pattern where
  profiles := [.fixedIdentity "\"\\\n\x00\u007f\u2028"]
  body := { userField := "\\\"", productField := "\t\u00e9", product := "\\u0041" }

theorem body_reads_back_of_escaped : escaped.validate = .ok () ∧
    ∃ r fields, escaped.build ⟨2, 0, 7⟩ "http://shop" = .ok r ∧ r.json? = some (.object fields) ∧
      ("\\\"", .string "\"\\\n\x00\u007f\u2028") ∈ fields ∧
      ("\t\u00e9", .string "\\u0041") ∈ fields := by
  have accepted : escaped.validate = .ok () := rfl
  obtain ⟨d, r, fields, drafted, composed, built, -, read, only⟩ :=
    body_reads_back escaped accepted ⟨2, 0, 7⟩ "http://shop"
  have tells := (only fields).mpr rfl
  have who : d.identity = "\"\\\n\x00\u007f\u2028" := by
    refine composed.fixed _ (by decide) ?_
    rintro sentinel ⟨f, mem, -⟩
    simp [escaped] at mem
  have kept : escaped.buyer? d = some d.identity := if_pos (by decide)
  refine ⟨accepted, r, fields, built, read, (tells.mem_iff _ _).mpr ?_, (tells.mem_iff _ _).mpr ?_⟩
  · rw [kept, who]
    exact (BodyShape.told_buyer_iff escaped.body _).mpr (.inl (by decide))
  · exact BodyShape.told_product escaped.body _

/-- An accepted pattern without a layer that keeps the buyer out builds bodies with the product
under its name. They have the buyer under his name exactly where that is another name, or where he
goes by the name of the product. -/
theorem names_buyer_iff (p : Pattern) (accepted : p.validate = .ok ())
    (kept : ∀ l ∈ p.profiles, l.strips = false) (c : Context) (url : String) :
    ∃ d r v, p.draft c = .ok d ∧ p.Composed c d ∧ p.build c url = .ok r ∧ r.json? = some v ∧
      v.field? p.body.productField = some (.string p.body.product) ∧
      (v.field? p.body.userField = some (.string d.identity) ↔
        p.body.userField ≠ p.body.productField ∨ d.identity = p.body.product) := by
  obtain ⟨d, drafted, composed⟩ := exists_composed (validate_eq_ok.mp accepted).2.2 c
  obtain ⟨v, named⟩ := exists_named drafted kept url
  exact ⟨d, _, v, drafted, composed, build_of_draft url drafted, named⟩

/-- Buyer and product under names that differ in case only. -/
def twoFields : Pattern where
  body := { userField := "id", productField := "ID" }

theorem names_buyer_iff_of_twoFields : twoFields.validate = .ok () ∧
    ∃ d r v, twoFields.draft ⟨1, 2, 7⟩ = .ok d ∧ twoFields.build ⟨1, 2, 7⟩ "http://shop" = .ok r ∧
      r.json? = some v ∧ v.field? "ID" = some (.string "1001") ∧
      v.field? "id" = some (.string d.identity) := by
  have accepted : twoFields.validate = .ok () := rfl
  obtain ⟨d, r, v, drafted, -, built, read, product, buyer⟩ :=
    names_buyer_iff twoFields accepted (by decide) ⟨1, 2, 7⟩ "http://shop"
  exact ⟨accepted, d, r, v, drafted, built, read, product, buyer.mpr (.inl (by decide))⟩

/-- Buyer and product under one name. -/
def oneField : Pattern where
  body := { userField := "product_id" }

/-- It is accepted and strips nothing, and its bodies do not name the buyer. -/
theorem buyer_lost_in_product : oneField.validate = .ok () ∧
    (∀ l ∈ oneField.profiles, l.strips = false) ∧
    ∃ d r v, oneField.draft ⟨1, 1, 1⟩ = .ok d ∧ oneField.build ⟨1, 1, 1⟩ "http://shop" = .ok r ∧
      r.json? = some v ∧
      v.field? oneField.body.userField ≠ some (.string d.identity) := by
  have kept : ∀ l ∈ oneField.profiles, l.strips = false := by decide
  have drafted : oneField.draft ⟨1, 1, 1⟩ = .ok { identity := "user-1-1" } := by decide
  obtain ⟨v, read, -, buyer⟩ := exists_named drafted kept "http://shop"
  refine ⟨rfl, kept, _, _, v, drafted, build_of_draft _ drafted, read, ?_⟩
  exact fun named => absurd (buyer.mp named) (by decide)

end Pattern
end PrecheckLoad
