import Mathlib.Data.Finset.Card
import PrecheckLoad.Proofs.Service.Headers

/-!
# The books of a shop

A service that trusts nobody and limits nobody sells by the book: all that it answers follows from
what there was to sell and from the set of those who bought. What it keeps besides, and when the
requests come, makes no difference.
-/
namespace PrecheckLoad

/-- The books: how many units there were, and who has bought one. -/
structure Ledger where
  stock : Nat
  buyers : Finset String := ∅

namespace Ledger

/-- What one is told who wants to buy. -/
def answer (l : Ledger) (who : String) : Answer :=
  if who = failureSentinel then .forcedFailure
  else if who ∈ l.buyers then .alreadyPurchased
  else if l.stock ≤ l.buyers.card then .soldOut
  else .accepted

/-- The books after that. -/
def after (l : Ledger) (who : String) : Ledger :=
  if l.answer who = .accepted then { l with buyers := insert who l.buyers } else l

/-- What all are told who want to buy, one after the other. -/
def answers (l : Ledger) : List String → List Answer
  | [] => []
  | who :: rest => l.answer who :: (l.after who).answers rest

variable {l : Ledger} {who : String}

/-- Who has bought is told so every time. -/
theorem answers_of_buyer (genuine : who ≠ failureSentinel) (bought : who ∈ l.buyers) (n : Nat) :
    l.answers (List.replicate n who) = List.replicate n .alreadyPurchased := by
  have told : l.answer who = .alreadyPurchased := by
    rw [answer, if_neg genuine, if_pos bought]
  have same : l.after who = l := by
    rw [after, told]
    exact if_neg (by decide)
  induction n with
  | zero => rfl
  | succ n ih => rw [List.replicate_succ, answers, told, same, ih, ← List.replicate_succ]

/-- Of those who come for the first unit under one name only the first gets it. -/
theorem answers_of_one (genuine : who ≠ failureSentinel) {stock : Nat} (left : 0 < stock)
    (n : Nat) : (Ledger.mk stock ∅).answers (List.replicate (n + 1) who) =
      .accepted :: List.replicate n .alreadyPurchased := by
  have told : (Ledger.mk stock ∅).answer who = .accepted := by
    rw [answer, if_neg genuine, if_neg (Finset.notMem_empty who), Finset.card_empty,
      if_neg (Nat.not_le_of_lt left)]
  have noted : (Ledger.mk stock ∅).after who = ⟨stock, insert who ∅⟩ := by
    rw [after, told]
    exact if_pos rfl
  rw [List.replicate_succ, answers, told, noted,
    answers_of_buyer genuine (Finset.mem_insert_self who ∅)]

end Ledger

/-- A sequence of arrivals has requests for these, in this order, and nothing else but pauses. -/
inductive Arrives {α : Type} (Brings : α → ServiceRequest → Prop) : List α → List Arrival → Prop
  | nil : Arrives Brings [] []
  | pause (ns : Nat) {as : List α} {xs : List Arrival} (later : Arrives Brings as xs) :
    Arrives Brings as (.pause ns :: xs)
  | request {a : α} {r : ServiceRequest} {as : List α} {xs : List Arrival} (brings : Brings a r)
    (later : Arrives Brings as xs) : Arrives Brings (a :: as) (.request r :: xs)

theorem Arrives.of_forall {α : Type} {Brings : α → ServiceRequest → Prop} {f : α → ServiceRequest}
    {as : List α} (h : ∀ a ∈ as, Brings a (f a)) : Arrives Brings as (as.map (.request ∘ f)) := by
  induction as with
  | nil => exact .nil
  | cons a as ih =>
    obtain ⟨first, later⟩ := List.forall_mem_cons.mp h
    exact .request first (ih later)

/-- What brings one thing about each of a list brings another about it. -/
theorem Arrives.map {α β γ : Type} {Brings : α → ServiceRequest → Prop}
    {Also : β → ServiceRequest → Prop} {f : γ → α} {g : γ → β} {cs : List γ} {xs : List Arrival}
    (h : Arrives Brings (cs.map f) xs)
    (also : ∀ c ∈ cs, ∀ r, Brings (f c) r → Also (g c) r) : Arrives Also (cs.map g) xs := by
  generalize same : cs.map f = as at h
  induction h generalizing cs with
  | nil =>
    cases List.map_eq_nil_iff.mp same
    exact .nil
  | pause ns later ih => exact .pause ns (ih also same)
  | request brings later ih =>
    obtain ⟨c, rest, rfl, rfl, rfl⟩ := List.map_eq_cons_iff.mp same
    have here := also c List.mem_cons_self _ brings
    exact .request here (ih (fun d mem => also d (List.mem_cons_of_mem c mem)) rfl)

/-- A request that is read as one of somebody for some product. -/
structure ServiceRequest.Demands (who : String) (r : ServiceRequest) : Prop where
  method : r.method = "POST"
  path : Service.pathOf r.path = Config.precheckPath
  short : r.body.length ≤ Service.bodyLimit
  buys : ∃ product, Purchase.read r.body = some { user := some who, product := some product }

/-- The service is where its books are. -/
structure Ledger.Books (l : Ledger) (s : Service) : Prop where
  distrust : s.config.trustHeader = false
  unlimited : s.limiter = none
  buyers : s.inventory.buyers.toFinset = l.buyers
  distinct : s.inventory.buyers.Nodup
  conserved : s.inventory.stock + s.inventory.buyers.length = l.stock

namespace Ledger.Books

variable {l : Ledger} {s : Service} {who : String} {r : ServiceRequest}

theorem ofConfig {c : ServiceConfig} (distrust : c.trustHeader = false)
    (unlimited : c.maxRate = none) : Books ⟨c.stock, ∅⟩ (.ofConfig c) where
  distrust := distrust
  unlimited := by
    have none : (Service.ofConfig c).limiter =
        c.maxRate.map fun r => .perSecond r.perSecond r.perSecond := rfl
    rw [none, unlimited]
    rfl
  buyers := rfl
  distinct := List.nodup_nil
  conserved := rfl

theorem advance (h : l.Books s) (ns : Nat) : l.Books (s.advance ns) :=
  ⟨h.distrust, h.unlimited, h.buyers, h.distinct, h.conserved⟩

theorem mem_buyers (h : l.Books s) : who ∈ l.buyers ↔ who ∈ s.inventory.buyers := by
  rw [← h.buyers, List.mem_toFinset]

theorem card_buyers (h : l.Books s) : l.buyers.card = s.inventory.buyers.length := by
  rw [← h.buyers, List.toFinset_card_of_nodup h.distinct]

/-- A sale is told as by the book, and entered into it. -/
theorem sell (h : l.Books s) (who : String) :
    (s.sell who).1 = l.answer who ∧ (l.after who).Books (s.sell who).2 := by
  have stays : ∀ a ≠ Answer.accepted, Service.sellFrom s.inventory who = (a, s.inventory) →
      l.answer who = a → (s.sell who).1 = l.answer who ∧ (l.after who).Books (s.sell who).2 := by
    intro a other sold told
    rw [Service.sell, sold, Ledger.after, told, if_neg other]
    exact ⟨rfl, h⟩
  by_cases forced : who = failureSentinel
  · refine stays .forcedFailure (by decide) ?_ ?_
    · rw [Service.sellFrom, if_pos forced]
    · rw [Ledger.answer, if_pos forced]
  by_cases bought : who ∈ l.buyers
  · refine stays .alreadyPurchased (by decide) ?_ ?_
    · rw [Service.sellFrom, if_neg forced,
        if_pos (List.contains_iff_mem.mpr (h.mem_buyers.mp bought))]
    · rw [Ledger.answer, if_neg forced, if_pos bought]
  have fresh : who ∉ s.inventory.buyers := fun mem => bought (h.mem_buyers.mpr mem)
  have unknown : ¬ s.inventory.buyers.contains who = true := fun known =>
    fresh (List.contains_iff_mem.mp known)
  have total := h.conserved
  have sold := h.card_buyers
  by_cases out : s.inventory.stock = 0
  · refine stays .soldOut (by decide) ?_ ?_
    · rw [Service.sellFrom, if_neg forced, if_neg unknown, if_pos out]
    · rw [Ledger.answer, if_neg forced, if_neg bought, if_pos (by omega)]
  have told : l.answer who = .accepted := by
    rw [Ledger.answer, if_neg forced, if_neg bought, if_neg (by omega)]
  have sale : Service.sellFrom s.inventory who =
      (.accepted, ⟨s.inventory.stock - 1, who :: s.inventory.buyers⟩) := by
    rw [Service.sellFrom, if_neg forced, if_neg unknown, if_neg out]
  rw [Service.sell, sale, Ledger.after, told, if_pos rfl]
  refine ⟨rfl, h.distrust, h.unlimited, ?_, List.nodup_cons.mpr ⟨fresh, h.distinct⟩, ?_⟩
  · show (who :: s.inventory.buyers).toFinset = insert who l.buyers
    rw [List.toFinset_cons, h.buyers]
  · show s.inventory.stock - 1 + (who :: s.inventory.buyers).length = l.stock
    rw [List.length_cons]
    omega

/-- One demand: no gate is between what is read and the sale. -/
theorem handle (h : l.Books s) (demand : r.Demands who) :
    (s.handle r).1 = (l.answer who).reply ∧ (l.after who).Books (s.handle r).2 := by
  obtain ⟨wait, handled⟩ := Service.handle_eq_precheck (s := s) (r := r)
    (not_not_intro demand.path) (not_not_intro demand.method) (Nat.not_lt_of_le demand.short)
  obtain ⟨product, buys⟩ := demand.buys
  have later := h.advance wait
  have passes : (s.advance wait).passLimiter = some (s.advance wait) := by
    rw [Service.passLimiter, later.unlimited]
  have sale : (s.advance wait).precheck r = (s.advance wait).sell who := by
    rw [Service.precheck, buys]
    simp only [later.distrust, Bool.false_eq_true, if_false, Option.none_or, passes]
  obtain ⟨told, entered⟩ := later.sell who
  rw [handled, sale]
  exact ⟨congrArg Answer.reply told, entered⟩

/-- By induction on what arrives: each demand leaves the service where its books are. -/
theorem serve {whos : List String} {xs : List Arrival} (h : l.Books s)
    (arrives : Arrives ServiceRequest.Demands whos xs) :
    (s.serve xs).1 = (l.answers whos).map Answer.reply := by
  induction arrives generalizing l s with
  | nil => rfl
  | pause ns later ih => exact ih (h.advance ns)
  | request demand later ih =>
    obtain ⟨told, entered⟩ := h.handle demand
    rw [Service.serve_request, Ledger.answers, List.map_cons, told, ih entered]

end Ledger.Books
end PrecheckLoad
