import PrecheckLoad.Delivery
import PrecheckLoad.Proofs.Pattern.Bodies
import PrecheckLoad.Proofs.Service.Ledger

/-!
# What a pattern buys

The requests of an accepted pattern, whatever their contexts, are demands of the identities that
its layers leave in the end. So a service that trusts nobody and limits nobody answers them by the
book, one by one.
-/
namespace PrecheckLoad

/-- A request as it may reach a service: nothing is said about its headers, and its target need be
no more than a way to write the path. -/
structure Request.Reaches (r : Request) (q : ServiceRequest) : Prop where
  method : q.method = r.method
  path : Service.pathOf q.path = Config.precheckPath
  body : q.body = r.body
  short : r.body.length ≤ Service.bodyLimit

theorem exists_of_mem_right {α β : Type} {R : α → β → Prop} {xs : List α} {ys : List β}
    (h : List.Forall₂ R xs ys) {y : β} (mem : y ∈ ys) : ∃ x ∈ xs, R x y := by
  induction h with
  | nil => cases mem
  | @cons x y' xs ys first later ih =>
    rcases List.mem_cons.mp mem with rfl | mem
    · exact ⟨x, List.mem_cons_self, first⟩
    · obtain ⟨x', listed, related⟩ := ih mem
      exact ⟨x', List.mem_cons_of_mem x listed, related⟩

namespace Pattern

variable {p : Pattern} {d : Draft} {q : ServiceRequest} {url : String}

theorem demands_of_reaches (user : p.body.userField = "user_id")
    (product : p.body.productField ∈ Purchase.productNames) (kept : d.bodyIdentity = true)
    (reaches : (Draft.request p url d).Reaches q) : q.Demands d.identity where
  method := reaches.method
  path := reaches.path
  short := by
    rw [reaches.body]
    exact reaches.short
  buys := by
    refine ⟨.string p.body.product, ?_⟩
    rw [reaches.body, read_body user product url d, if_pos kept]

theorem reaches_received (path : Service.pathOf (Service.pathOf url) = Config.precheckPath)
    (short : (Draft.request p url d).body.length ≤ Service.bodyLimit) :
    (Draft.request p url d).Reaches (Delivery.received (Draft.request p url d)) :=
  ⟨rfl, path, rfl, short⟩

/-- The drafts of a sequence of contexts. -/
theorem exists_drafts (wf : WellFormed p.profiles) (url : String) (cs : List Context) :
    ∃ ds : List Draft, List.Forall₂ (fun c d => p.draft c = .ok d ∧ p.Composed c d) cs ds ∧
      cs.mapM (fun c => p.build c url) = .ok (ds.map (Draft.request p url)) := by
  induction cs with
  | nil => exact ⟨[], .nil, rfl⟩
  | cons c cs ih =>
    obtain ⟨d, drafted, composed⟩ := exists_composed wf c
    obtain ⟨ds, later, built⟩ := ih
    refine ⟨d :: ds, .cons ⟨drafted, composed⟩ later, ?_⟩
    rw [List.mapM_cons, build_of_draft url drafted, ok_bind, built]
    rfl

/-- The requests that an accepted pattern builds for a sequence of contexts, in any order and with
repeats, are sold to by the book of their identities, as long as these are in the bodies and no
body is too long to be read. Of a pattern of one identity just one is accepted. -/
theorem served_by_the_book (p : Pattern) (shop : ServiceConfig) (url : String)
    (accepted : p.validate = .ok ()) (user : p.body.userField = "user_id")
    (product : p.body.productField ∈ Purchase.productNames)
    (kept : ∀ l ∈ p.profiles, l.strips = false) (distrust : shop.trustHeader = false)
    (unlimited : shop.maxRate = none) (cs : List Context) :
    ∃ ds : List Draft, List.Forall₂ (fun c d => p.draft c = .ok d ∧ p.Composed c d) cs ds ∧
      cs.mapM (fun c => p.build c url) = .ok (ds.map (Draft.request p url)) ∧
      ∀ xs, Arrives Request.Reaches (ds.map (Draft.request p url)) xs →
        let replies := ((Service.ofConfig shop).serve xs).1
        replies = ((Ledger.mk shop.stock ∅).answers (ds.map (·.identity))).map Answer.reply ∧
        ∀ who, .fixedIdentity who ∈ p.profiles → (∀ c ∈ cs, ∀ sentinel, ¬ p.Forces c sentinel) →
          who ≠ failureSentinel → 0 < shop.stock → cs ≠ [] →
          (replies.countP fun r => r.status = 200) = 1 := by
  have wf := (validate_eq_ok.mp accepted).2.2
  obtain ⟨ds, drafts, built⟩ := exists_drafts wf url cs
  refine ⟨ds, drafts, built, ?_⟩
  intro xs arrives replies
  have demands : Arrives ServiceRequest.Demands (ds.map (·.identity)) xs := by
    apply arrives.map
    intro d mem q reaches
    obtain ⟨c, -, drafted, -⟩ := exists_of_mem_right drafts mem
    exact demands_of_reaches user product ((bodyIdentity_iff drafted).mpr kept) reaches
  have sold := (Ledger.Books.ofConfig distrust unlimited).serve demands
  refine ⟨sold, ?_⟩
  intro who fixed unforced genuine left some
  have one : ds.map (·.identity) = List.replicate cs.length who := by
    rw [List.eq_replicate_iff, List.length_map, drafts.length_eq]
    refine ⟨rfl, ?_⟩
    intro identity mem
    obtain ⟨d, listed, rfl⟩ := List.mem_map.mp mem
    obtain ⟨c, among, -, composed⟩ := exists_of_mem_right drafts listed
    exact composed.fixed who fixed (unforced c among)
  obtain ⟨n, more⟩ : ∃ n, cs.length = n + 1 :=
    Nat.exists_eq_add_one.mpr (List.length_pos_iff.mpr some)
  have told : replies =
      Answer.accepted.reply :: List.replicate n Answer.alreadyPurchased.reply := by
    refine sold.trans ?_
    rw [one, more, Ledger.answers_of_one genuine left, List.map_cons, List.map_replicate]
  rw [told, List.countP_cons, List.countP_replicate]
  rfl

/-- One buyer whose name needs escaping in a body, and whose claims are made up. -/
def oneBuyer : Pattern where
  profiles := [.spoofedHeader {}, .fixedIdentity "a \"b\"\\\n\u00e9"]
  body := { productField := "product", product := "\t\u2028" }

def anyContexts : List Context := [⟨2, 1, 7⟩, ⟨1, 0, 7⟩, ⟨2, 1, 7⟩]

/-- The buyer is accepted once, though three requests come in, one of them a second time. -/
theorem served_by_the_book_of_oneBuyer : oneBuyer.validate = .ok () ∧ ∃ rs xs,
    anyContexts.mapM (fun c => oneBuyer.build c "http://shop/flashsale/precheck") = .ok rs ∧
      Arrives Request.Reaches rs xs ∧ xs.length = 3 ∧
      (((Service.ofConfig { stock := 2 }).serve xs).1.countP fun r => r.status = 200) = 1 := by
  have accepted : oneBuyer.validate = .ok () := rfl
  have fixed : .fixedIdentity "a \"b\"\\\n\u00e9" ∈ oneBuyer.profiles := by decide
  have unforced : ∀ c ∈ anyContexts, ∀ sentinel, ¬ oneBuyer.Forces c sentinel := by
    rintro c - sentinel ⟨f, mem, -⟩
    simp [oneBuyer] at mem
  obtain ⟨ds, drafts, built, told⟩ := served_by_the_book oneBuyer { stock := 2 }
    "http://shop/flashsale/precheck" accepted rfl (by decide) (by decide) rfl rfl anyContexts
  have short : ∀ c ∈ anyContexts, ∀ d, oneBuyer.draft c = .ok d →
      (Draft.request oneBuyer "http://shop/flashsale/precheck" d).body.length ≤
        Service.bodyLimit := by
    have all : ∀ c ∈ anyContexts, ∀ d ∈ (oneBuyer.draft c).toOption,
        (Draft.request oneBuyer "http://shop/flashsale/precheck" d).body.length ≤
          Service.bodyLimit := by decide +kernel
    intro c among d drafted
    apply all c among
    rw [drafted]
    rfl
  have path : Service.pathOf (Service.pathOf "http://shop/flashsale/precheck") =
      Config.precheckPath := by decide +kernel
  have reaches : ∀ d ∈ ds, (Draft.request oneBuyer "http://shop/flashsale/precheck" d).Reaches
      (Delivery.received (Draft.request oneBuyer "http://shop/flashsale/precheck" d)) := by
    intro d mem
    obtain ⟨c, among, drafted, -⟩ := exists_of_mem_right drafts mem
    exact reaches_received path (short c among d drafted)
  have arrives := Arrives.of_forall (f := Delivery.received)
    (List.forall_mem_map.mpr reaches)
  refine ⟨accepted, _, _, built, arrives, ?_, ?_⟩
  · simp [← drafts.length_eq, anyContexts]
  · exact (told _ arrives).2 _ fixed unforced (by decide) (by decide) (by decide)

end Pattern
end PrecheckLoad
