import Mathlib.Data.List.Forall2
import PrecheckLoad.Proofs.Service.Purchases
import PrecheckLoad.Proofs.Service.Sales

/-!
# What headers can do to a service

Two courses of requests and pauses that differ in headers only are told apart by a service exactly
if it trusts what clients claim. One that does not deals with each of the requests alike, whatever
the requests before them were, so it answers alike and ends in the same state.
-/
namespace PrecheckLoad

/-- What reaches a service: a request, or nothing for some time. -/
inductive Arrival
  | request (r : ServiceRequest)
  | pause (ns : Nat)

/-- Deals with all that reaches a service, one after the other. -/
def Service.serve (s : Service) : List Arrival → List Reply × Service
  | [] => ([], s)
  | .request r :: rest =>
    let (reply, s) := s.handle r
    let (replies, s) := s.serve rest
    (reply :: replies, s)
  | .pause ns :: rest => (s.advance ns).serve rest

/-- Two requests that differ in headers only. -/
structure ServiceRequest.Alike (r q : ServiceRequest) : Prop where
  method : r.method = q.method
  path : r.path = q.path
  body : r.body = q.body

inductive Arrival.Alike : Arrival → Arrival → Prop
  | request {r q : ServiceRequest} (alike : r.Alike q) : Alike (.request r) (.request q)
  | pause (ns : Nat) : Alike (.pause ns) (.pause ns)

variable {c : ServiceConfig} {s : Service} {r q : ServiceRequest} {xs ys : List Arrival}

namespace Service

theorem serve_request (s : Service) (r : ServiceRequest) (rest : List Arrival) :
    s.serve (.request r :: rest) =
      ((s.handle r).1 :: ((s.handle r).2.serve rest).1, ((s.handle r).2.serve rest).2) := rfl

theorem precheck_alike (distrust : s.config.trustHeader = false) (alike : r.Alike q) :
    s.precheck r = s.precheck q := by
  have claims : ∀ hs : List RawHeader,
      (if s.config.trustHeader then claimed? hs else none) = none := by
    intro hs
    simp [distrust]
  simp only [precheck, alike.body, claims]

theorem handle_alike (distrust : s.config.trustHeader = false) (alike : r.Alike q) :
    s.handle r = s.handle q := by
  have same : ∀ wait, (s.advance wait).precheck r = (s.advance wait).precheck q := by
    intro wait
    exact precheck_alike distrust alike
  simp only [handle, alike.path, alike.method, alike.body, same]

/-- By induction on the arrivals: requests that are dealt with alike leave one state behind. -/
theorem serve_alike (distrust : s.config.trustHeader = false)
    (alike : List.Forall₂ Arrival.Alike xs ys) : s.serve xs = s.serve ys := by
  induction alike generalizing s with
  | nil => rfl
  | @cons x y xs ys first later ih =>
    cases first with
    | @request r q alike =>
      have here := handle_alike distrust alike
      have config : (s.handle q).2.config.trustHeader = false := by
        rw [(s.handle_effect q).1]
        exact distrust
      rw [serve_request, serve_request, here, ih config]
    | pause ns => exact ih distrust

/-- The first request of all passes any limiter. -/
theorem check_fresh (rate : Rate) (now : Nat) :
    ∃ l, (Limiter.perSecond rate.perSecond rate.perSecond).check now = .ok l := by
  let interval := 1000000000 / rate.perSecond
  have room : interval ≤ max interval 1 * rate.perSecond :=
    Nat.le_trans (Nat.le_max_left interval 1) (Nat.le_mul_of_pos_right _ rate.pos)
  have early : ¬ now < now + interval - max interval 1 * rate.perSecond := by omega
  exact ⟨_, if_neg early⟩

theorem passLimiter_fresh (c : ServiceConfig) (wait : Nat) :
    ∃ s, ((ofConfig c).advance wait).passLimiter = some s := by
  unfold passLimiter
  cases limited : c.maxRate with
  | none => simp [advance, ofConfig, limited]
  | some rate =>
    obtain ⟨l, passes⟩ := check_fresh rate wait
    simp [advance, ofConfig, limited, passes]

/-- A sale is not refused for want of data. -/
theorem status_of_sell (s : Service) (user : String) : (s.sell user).1.status ≠ 400 := by
  have sold : (sellFrom s.inventory user).1.status ≠ 400 := by
    unfold sellFrom
    repeat' split
    all_goals simp [Answer.status]
  exact sold

end Service

/-- A demand for some product by nobody, with these headers. -/
def ServiceRequest.anonymous (headers : List RawHeader) : ServiceRequest where
  headers := headers
  body := Text.encode (Purchase.written "product_id" "1001" none).compact

/-- A header that claims to be somebody. -/
def RawHeader.claim (user : String) : RawHeader := (claimHeader, Text.encode user)

namespace Service

theorem handle_anonymous (s : Service) (hs : List RawHeader) : ∃ wait,
    s.handle (.anonymous hs) = (((s.advance wait).precheck (.anonymous hs)).1.reply,
      ((s.advance wait).precheck (.anonymous hs)).2) := by
  have path : ¬ pathOf Config.precheckPath ≠ Config.precheckPath := by decide +kernel
  have short : ¬ (ServiceRequest.anonymous []).body.length > bodyLimit := by decide +kernel
  exact handle_eq_precheck path (fun other => other rfl) short

/-- Who claims nothing is nobody. -/
theorem status_of_unclaimed (s : Service) : (s.handle (.anonymous [])).1.status = 400 := by
  obtain ⟨wait, handled⟩ := s.handle_anonymous []
  have known : "product_id" ∈ Purchase.productNames := by decide
  have read := Purchase.read_written known "1001" none
  have nobody : ((s.advance wait).precheck (.anonymous [])).1 = .incomplete := by
    unfold precheck ServiceRequest.anonymous
    rw [read]
    cases (s.advance wait).config.trustHeader <;> rfl
  rw [handled, nobody]
  rfl

theorem status_of_claimed (trust : c.trustHeader = true) :
    ((ofConfig c).handle (.anonymous [.claim "a"])).1.status ≠ 400 := by
  obtain ⟨wait, handled⟩ := (ofConfig c).handle_anonymous [.claim "a"]
  obtain ⟨s, passes⟩ := passLimiter_fresh c wait
  have known : "product_id" ∈ Purchase.productNames := by decide
  have read := Purchase.read_written known "1001" none
  have claimed : claimed? [.claim "a"] = some "a" := by decide +kernel
  have sold : (((ofConfig c).advance wait).precheck (.anonymous [.claim "a"])).1 =
      (s.sell "a").1 := by
    unfold precheck ServiceRequest.anonymous
    have trusts : ((ofConfig c).advance wait).config.trustHeader = true := trust
    simp only [read, trusts, claimed, if_true, passes]
    rfl
  rw [handled, sold]
  exact s.status_of_sell "a"

/-- A service is blind to headers exactly if it does not trust them: then, whatever is claimed and
by whom, the replies are the same, one by one, and so are the inventory, the limiter and the clock
in the end. One that trusts them takes a claim for a buyer, and says so in its first reply. -/
theorem blind_to_headers_iff (c : ServiceConfig) :
    (∀ xs ys, List.Forall₂ Arrival.Alike xs ys → (ofConfig c).serve xs = (ofConfig c).serve ys) ↔
      c.trustHeader = false := by
  constructor
  · intro blind
    by_contra trust
    have apart := status_of_claimed (eq_true_of_ne_false trust)
    have alike : ServiceRequest.Alike (.anonymous [.claim "a"]) (.anonymous []) := ⟨rfl, rfl, rfl⟩
    have same := congrArg Prod.fst (blind _ _ (.cons (.request alike) .nil))
    rw [serve_request, serve_request] at same
    have reply := (List.cons.inj same).1
    apply apart
    rw [reply]
    exact status_of_unclaimed _
  · intro distrust xs ys alike
    exact serve_alike distrust alike

/-- One request by nobody, with two claims and then with none. -/
example : ((ofConfig {}).serve [.request (.anonymous [.claim "a", .claim "b"]), .pause 1,
    .request (.anonymous [])]).1 = [Answer.incomplete.reply, Answer.incomplete.reply] := by
  decide +kernel

end Service

end PrecheckLoad
