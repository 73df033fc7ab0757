import Mathlib.Data.List.Nodup
import PrecheckLoad.Service

/-!
# The sales of a service

A service is reached by requests, of whatever kind, and by time passing. A request can do one of
four things, and only one of them touches the inventory: it takes a unit and makes a buyer. So the
buyers are at all times those whose requests were accepted, and stock and buyers add up to what
there was to sell.
-/
namespace PrecheckLoad

/-- A reply mentions a mark, as one who looks for it in the body finds it. -/
def Reply.mentions (r : Reply) (mark : String) : Bool :=
  Text.occursIn (Text.encode mark) (Text.encode r.body)

/-- A request that has been dealt with. -/
structure Dealing where
  request : ServiceRequest
  reply : Reply

/-- Whom a request is for, where it can be read. -/
def ServiceRequest.buyer? (c : ServiceConfig) (r : ServiceRequest) : Option String :=
  (Purchase.read r.body).bind fun p =>
    (if c.trustHeader then claimed? r.headers else none).or p.user

def Dealing.buyer? (c : ServiceConfig) (d : Dealing) : Option String :=
  d.request.buyer? c

/-- The request was accepted. -/
def Dealing.Sold (d : Dealing) : Prop := d.reply.status = 200

instance : DecidablePred Dealing.Sold := fun d => inferInstanceAs (Decidable (d.reply.status = 200))

/-- A service that began with a configuration has dealt with these requests, the latest first, and
is in this state. -/
inductive Served (c : ServiceConfig) : List Dealing → Service → Prop
  | start : Served c [] (.ofConfig c)
  | advance (ns : Nat) {past : List Dealing} {s : Service} (before : Served c past s) :
    Served c past (s.advance ns)
  | request (r : ServiceRequest) {past : List Dealing} {s : Service} (before : Served c past s) :
    Served c (⟨r, (s.handle r).1⟩ :: past) (s.handle r).2

/-- The replies to what is no request for the service. -/
def Reply.unserved : List Reply := [notFound, methodNotAllowed, tooLarge]

/-- The answers to a request that does not come to a sale. -/
def Answer.refusals : List Answer := [invalidBody, incomplete, rateLimited, forcedFailure]

/-- What a request for a buyer can do to an inventory, and the reply it gets. -/
inductive Effect (i : Inventory) : Option String → Reply → Inventory → Prop
  | unserved (buyer : Option String) (reply : Reply) (early : reply ∈ Reply.unserved) :
    Effect i buyer reply i
  | refused (buyer : Option String) (a : Answer) (refusal : a ∈ Answer.refusals) :
    Effect i buyer a.reply i
  | again (user : String) (bought : user ∈ i.buyers) :
    Effect i (some user) Answer.alreadyPurchased.reply i
  | soldOut (user : String) (none : i.stock = 0) :
    Effect i (some user) Answer.soldOut.reply i
  | sold (user : String) (unforced : user ≠ failureSentinel) (fresh : user ∉ i.buyers)
    (left : 0 < i.stock) :
    Effect i (some user) Answer.accepted.reply ⟨i.stock - 1, user :: i.buyers⟩

variable {c : ServiceConfig} {past later earlier : List Dealing} {s : Service} {d : Dealing}
  {i i' : Inventory} {buyer : Option String} {reply : Reply} {a : Answer}

theorem Answer.status_reply_eq_ok_iff : a.reply.status = 200 ↔ a = .accepted := by
  cases a <;> decide

theorem Answer.mentions_alreadyPurchased_iff :
    a.reply.mentions Preset.alreadyPurchasedMark = true ↔ a = .alreadyPurchased := by
  cases a <;> decide +kernel

theorem Answer.mentions_soldOut_iff :
    a.reply.mentions Preset.soldOutMark = true ↔ a = .soldOut := by
  cases a <;> decide +kernel

theorem Reply.of_unserved (early : reply ∈ unserved) : reply.status ≠ 200 ∧
    reply.mentions Preset.alreadyPurchasedMark = false ∧
    reply.mentions Preset.soldOutMark = false := by
  have all : ∀ reply ∈ [notFound, methodNotAllowed, tooLarge], reply.status ≠ 200 ∧
      reply.mentions Preset.alreadyPurchasedMark = false ∧
      reply.mentions Preset.soldOutMark = false := by decide +kernel
  exact all reply early

namespace Effect

/-- An inventory changes with an acceptance only. -/
theorem unchanged (h : Effect i buyer reply i') (unsold : reply.status ≠ 200) : i' = i := by
  cases h with
  | sold => exact absurd rfl unsold
  | _ => rfl

theorem of_sold (h : Effect i buyer reply i') (sold : reply.status = 200) :
    ∃ user, buyer = some user ∧ user ≠ failureSentinel ∧ user ∉ i.buyers ∧
      i.stock = i'.stock + 1 ∧ i'.buyers = user :: i.buyers := by
  cases h with
  | unserved _ _ early => exact absurd sold (Reply.of_unserved early).1
  | refused _ a refusal =>
    rw [Answer.status_reply_eq_ok_iff.mp sold] at refusal
    exact absurd refusal (by decide)
  | again => cases Answer.status_reply_eq_ok_iff.mp sold
  | soldOut => cases Answer.status_reply_eq_ok_iff.mp sold
  | sold user unforced fresh left =>
    refine ⟨user, rfl, unforced, fresh, ?_, rfl⟩
    show i.stock = i.stock - 1 + 1
    omega

theorem of_again (h : Effect i buyer reply i')
    (again : reply.mentions Preset.alreadyPurchasedMark = true) :
    ∃ user, buyer = some user ∧ user ∈ i.buyers := by
  cases h with
  | unserved _ _ early =>
    exact absurd ((Reply.of_unserved early).2.1.symm.trans again) Bool.false_ne_true
  | refused _ a refusal =>
    rw [Answer.mentions_alreadyPurchased_iff.mp again] at refusal
    exact absurd refusal (by decide)
  | again user bought => exact ⟨user, rfl, bought⟩
  | soldOut => cases Answer.mentions_alreadyPurchased_iff.mp again
  | sold => cases Answer.mentions_alreadyPurchased_iff.mp again

theorem of_soldOut (h : Effect i buyer reply i')
    (soldOut : reply.mentions Preset.soldOutMark = true) : i.stock = 0 ∧ reply.status ≠ 200 := by
  cases h with
  | unserved _ _ early =>
    exact absurd ((Reply.of_unserved early).2.2.symm.trans soldOut) Bool.false_ne_true
  | refused _ a refusal =>
    rw [Answer.mentions_soldOut_iff.mp soldOut] at refusal
    exact absurd refusal (by decide)
  | again => cases Answer.mentions_soldOut_iff.mp soldOut
  | soldOut user none => exact ⟨none, by decide⟩
  | sold => cases Answer.mentions_soldOut_iff.mp soldOut

end Effect

namespace Service

theorem sellFrom_effect (i : Inventory) (user : String) :
    Effect i (some user) (sellFrom i user).1.reply (sellFrom i user).2 := by
  unfold sellFrom
  by_cases forced : user = failureSentinel
  · rw [if_pos forced]
    exact .refused _ _ (by simp [Answer.refusals])
  · rw [if_neg forced]
    by_cases bought : i.buyers.contains user = true
    · rw [if_pos bought]
      exact .again user (List.contains_iff_mem.mp bought)
    · rw [if_neg bought]
      have fresh : user ∉ i.buyers := fun mem => bought (List.contains_iff_mem.mpr mem)
      by_cases none : i.stock = 0
      · rw [if_pos none]
        exact .soldOut user none
      · rw [if_neg none]
        exact .sold user forced fresh (Nat.pos_of_ne_zero none)

theorem passLimiter_keeps {s' : Service} (h : s.passLimiter = some s') :
    s'.inventory = s.inventory ∧ s'.config = s.config := by
  unfold passLimiter at h
  cases limited : s.limiter with
  | none =>
    simp only [limited] at h
    cases h
    exact ⟨rfl, rfl⟩
  | some l =>
    simp only [limited] at h
    cases checked : l.check s.now with
    | ok l' =>
      simp only [checked] at h
      cases h
      exact ⟨rfl, rfl⟩
    | error wait =>
      simp only [checked] at h
      cases h

theorem precheck_effect (s : Service) (r : ServiceRequest) :
    (s.precheck r).2.config = s.config ∧
    Effect s.inventory (r.buyer? s.config) (s.precheck r).1.reply (s.precheck r).2.inventory := by
  unfold precheck ServiceRequest.buyer?
  cases read : Purchase.read r.body with
  | none => exact ⟨rfl, .refused _ _ (by simp [Answer.refusals])⟩
  | some p =>
    dsimp only [Option.bind_some]
    split
    · next user product same given =>
      rw [same]
      cases passed : s.passLimiter with
      | none => exact ⟨rfl, .refused _ _ (by simp [Answer.refusals])⟩
      | some s' =>
        obtain ⟨inventory, config⟩ := passLimiter_keeps passed
        refine ⟨config, ?_⟩
        rw [← inventory]
        exact sellFrom_effect s'.inventory user
    · exact ⟨rfl, .refused _ _ (by simp [Answer.refusals])⟩

theorem precheck_advance_effect (s : Service) (wait : Nat) (r : ServiceRequest) :
    ((s.advance wait).precheck r).2.config = s.config ∧
    Effect s.inventory (r.buyer? s.config) ((s.advance wait).precheck r).1.reply
      ((s.advance wait).precheck r).2.inventory :=
  precheck_effect (s.advance wait) r

/-- What is a request for the service is looked at after the delay. -/
theorem handle_eq_precheck {r : ServiceRequest} (path : ¬ pathOf r.path ≠ Config.precheckPath)
    (method : ¬ r.method ≠ "POST") (short : ¬ r.body.length > bodyLimit) :
    ∃ wait, s.handle r =
      (((s.advance wait).precheck r).1.reply, ((s.advance wait).precheck r).2) := by
  refine ⟨Duration.ceilMillis s.config.delay.nanos * 1000000, ?_⟩
  unfold handle
  rw [if_neg path, if_neg method, if_neg short]

/-- All that a request can do. -/
theorem handle_effect (s : Service) (r : ServiceRequest) :
    (s.handle r).2.config = s.config ∧
    Effect s.inventory (r.buyer? s.config) (s.handle r).1 (s.handle r).2.inventory := by
  by_cases path : pathOf r.path ≠ Config.precheckPath
  · have early : s.handle r = (.notFound, s) := by rw [handle, if_pos path]
    rw [early]
    exact ⟨rfl, .unserved _ _ (by simp [Reply.unserved])⟩
  by_cases method : r.method ≠ "POST"
  · have early : s.handle r = (.methodNotAllowed, s) := by
      rw [handle, if_neg path, if_pos method]
    rw [early]
    exact ⟨rfl, .unserved _ _ (by simp [Reply.unserved])⟩
  by_cases long : r.body.length > bodyLimit
  · have early : s.handle r = (.tooLarge, s) := by
      rw [handle, if_neg path, if_neg method, if_pos long]
    rw [early]
    exact ⟨rfl, .unserved _ _ (by simp [Reply.unserved])⟩
  obtain ⟨wait, served⟩ := handle_eq_precheck (s := s) path method long
  rw [served]
  exact precheck_advance_effect s wait r

end Service

/-- Those whose requests were accepted, the latest first. -/
def soldTo (c : ServiceConfig) (past : List Dealing) : List (Option String) :=
  (past.filter fun d => d.Sold).map (Dealing.buyer? c)

/-- The inventory is what the dealings have made of it. -/
structure Accounted (c : ServiceConfig) (past : List Dealing) (s : Service) : Prop where
  config : s.config = c
  conserved : s.inventory.stock + s.inventory.buyers.length = c.stock
  buyers : soldTo c past = s.inventory.buyers.map some
  distinct : s.inventory.buyers.Nodup

theorem soldTo_cons_of_sold (sold : d.Sold) :
    soldTo c (d :: past) = d.buyer? c :: soldTo c past := by
  simp [soldTo, sold]

theorem soldTo_cons_of_unsold (unsold : ¬ d.Sold) : soldTo c (d :: past) = soldTo c past := by
  simp [soldTo, unsold]

theorem mem_soldTo : buyer ∈ soldTo c past ↔ ∃ d ∈ past, d.Sold ∧ d.buyer? c = buyer := by
  simp [soldTo, and_assoc]

theorem length_soldTo : (soldTo c past).length = past.countP fun d => d.Sold := by
  rw [soldTo, List.length_map, List.countP_eq_length_filter]

theorem Accounted.request (h : Accounted c past s) (r : ServiceRequest) :
    Accounted c (⟨r, (s.handle r).1⟩ :: past) (s.handle r).2 := by
  obtain ⟨config, effect⟩ := s.handle_effect r
  rw [h.config] at effect
  by_cases sold : (s.handle r).1.status = 200
  · obtain ⟨user, same, -, fresh, stock, buyers⟩ := effect.of_sold sold
    have conserved := h.conserved
    constructor
    · exact config.trans h.config
    · rw [buyers, List.length_cons]
      omega
    · rw [soldTo_cons_of_sold (show Dealing.Sold ⟨r, _⟩ from sold), h.buyers, buyers, List.map_cons]
      exact congrArg (· :: _) same
    · rw [buyers]
      exact List.nodup_cons.mpr ⟨fresh, h.distinct⟩
  · have same := effect.unchanged sold
    constructor
    · exact config.trans h.config
    · rw [same]
      exact h.conserved
    · rw [same, soldTo_cons_of_unsold (show ¬ Dealing.Sold ⟨r, _⟩ from sold)]
      exact h.buyers
    · rw [same]
      exact h.distinct

theorem Served.accounted (h : Served c past s) : Accounted c past s := by
  induction h with
  | start => exact ⟨rfl, rfl, rfl, List.nodup_nil⟩
  | advance ns _ ih => exact ⟨ih.config, ih.conserved, ih.buyers, ih.distinct⟩
  | request r _ ih => exact ih.request r

/-- Every request was dealt with in a state that the requests before it led to. -/
theorem Served.of_split (h : Served c past s) (split : past = later ++ d :: earlier) :
    ∃ s₀, Served c earlier s₀ ∧ d.reply = (s₀.handle d.request).1 := by
  induction h generalizing later with
  | start => simp at split
  | advance ns _ ih => exact ih split
  | @request r past s before ih =>
    cases later with
    | nil =>
      obtain ⟨rfl, rfl⟩ := List.cons.inj split
      exact ⟨s, before, rfl⟩
    | cons e later => exact ih (List.cons.inj split).2

theorem Accounted.countP_sold (h : Accounted c past s) :
    (past.countP fun d => d.Sold) = s.inventory.buyers.length := by
  rw [← length_soldTo (c := c), h.buyers, List.length_map]

/-- No user is sold to twice. -/
theorem Accounted.nodup_soldTo (h : Accounted c past s) : (soldTo c past).Nodup := by
  rw [h.buyers]
  exact h.distinct.map fun a b same => Option.some.inj same

/-- How a request was dealt with that others came before and after. -/
structure Dealing.Fair (c : ServiceConfig) (later earlier : List Dealing) (d : Dealing) :
    Prop where
  sold : d.Sold → ∃ user, d.buyer? c = some user ∧ user ≠ failureSentinel ∧
    ∀ e, e ∈ later ∨ e ∈ earlier → e.Sold → e.buyer? c ≠ some user
  again : d.reply.mentions Preset.alreadyPurchasedMark = true → ∃ user, d.buyer? c = some user ∧
    ∃ e ∈ earlier, e.Sold ∧ e.buyer? c = some user
  soldOut : d.reply.mentions Preset.soldOutMark = true →
    (earlier.countP fun e => e.Sold) = c.stock ∧ ∀ e ∈ later, ¬ e.Sold

theorem Served.fair (h : Served c (later ++ d :: earlier) s) : d.Fair c later earlier := by
  obtain ⟨s₀, before, reply⟩ := h.of_split rfl
  have accounted := before.accounted
  have whole := h.accounted
  have effect := (s₀.handle_effect d.request).2
  rw [← reply, accounted.config] at effect
  constructor
  · intro sold
    obtain ⟨user, same, unforced, -⟩ := effect.of_sold sold
    refine ⟨user, same, unforced, ?_⟩
    intro e mem soldOn twice
    have parts : soldTo c (later ++ d :: earlier) =
        soldTo c later ++ some user :: soldTo c earlier := by
      have one : soldTo c (d :: earlier) = d.buyer? c :: soldTo c earlier :=
        soldTo_cons_of_sold sold
      have first : d.buyer? c = some user := same
      rw [← first, ← one]
      simp [soldTo]
    have distinct := whole.nodup_soldTo
    rw [parts, List.nodup_middle, List.nodup_cons, List.mem_append] at distinct
    apply distinct.1
    rcases mem with after | before
    · exact Or.inl (mem_soldTo.mpr ⟨e, after, soldOn, twice⟩)
    · exact Or.inr (mem_soldTo.mpr ⟨e, before, soldOn, twice⟩)
  · intro again
    obtain ⟨user, same, bought⟩ := effect.of_again again
    have mem : some user ∈ soldTo c earlier := by
      rw [accounted.buyers]
      exact List.mem_map_of_mem bought
    exact ⟨user, same, mem_soldTo.mp mem⟩
  · intro soldOut
    obtain ⟨none, unsold⟩ := effect.of_soldOut soldOut
    have all : (earlier.countP fun e => e.Sold) = c.stock := by
      have conserved := accounted.conserved
      rw [accounted.countP_sold]
      omega
    refine ⟨all, ?_⟩
    intro e mem sold
    have some : 0 < later.countP fun e => e.Sold :=
      List.countP_pos_iff.mpr ⟨e, mem, decide_eq_true sold⟩
    have total := whole.countP_sold
    have conserved := whole.conserved
    rw [List.countP_append, List.countP_cons] at total
    omega

/-- Whatever a service has been asked, its stock and its buyers add up to what there was to sell.
The inventory changes where a request is accepted, by that unit and that buyer, and each request
has been dealt with fairly. -/
theorem sales_are_safe (h : Served c past s) :
    s.inventory.stock + s.inventory.buyers.length = c.stock ∧ s.inventory.buyers.Nodup ∧
    (∀ ns, (s.advance ns).inventory = s.inventory) ∧
    (∀ r, ((s.handle r).1.status ≠ 200 → (s.handle r).2.inventory = s.inventory) ∧
      ((s.handle r).1.status = 200 → ∃ user, r.buyer? c = some user ∧
        user ∉ s.inventory.buyers ∧ s.inventory.stock = (s.handle r).2.inventory.stock + 1 ∧
        (s.handle r).2.inventory.buyers = user :: s.inventory.buyers)) ∧
    (past.countP fun d => d.Sold) ≤ c.stock ∧
    ∀ later d earlier, past = later ++ d :: earlier → d.Fair c later earlier := by
  have accounted := h.accounted
  refine ⟨accounted.conserved, accounted.distinct, ?_, ?_, ?_, ?_⟩
  · intro ns
    rfl
  · intro r
    have effect := (s.handle_effect r).2
    rw [accounted.config] at effect
    constructor
    · exact effect.unchanged
    · intro sold
      obtain ⟨user, same, -, fresh, stock, buyers⟩ := effect.of_sold sold
      exact ⟨user, same, fresh, stock, buyers⟩
  · have conserved := accounted.conserved
    rw [accounted.countP_sold]
    omega
  · rintro later d earlier rfl
    exact h.fair

/-- A request of a user for some product. -/
def ServiceRequest.demand (user : String) : ServiceRequest :=
  { body := Text.encode ("\x7b\"user_id\":\"" ++ user ++ "\",\"product_id\":1\x7d") }

/-- The only unit is sold to the first user, who asks again; then there is none for the second. -/
theorem sales_are_safe_of_one_unit : ∃ past s, Served { stock := 1 } past s ∧
    past.map Dealing.reply =
      [Answer.soldOut.reply, Answer.alreadyPurchased.reply, Answer.accepted.reply] ∧
    s.inventory.stock + s.inventory.buyers.length = 1 ∧
    ∀ later d earlier, past = later ++ d :: earlier → d.Fair { stock := 1 } later earlier := by
  let s₀ : Service := .ofConfig { stock := 1 }
  let s₁ := (s₀.handle (.demand "a")).2
  let s₂ := (s₁.handle (.demand "a")).2
  have first : (s₀.handle (.demand "a")).1 = Answer.accepted.reply := by decide +kernel
  have second : (s₁.handle (.demand "a")).1 = Answer.alreadyPurchased.reply := by decide +kernel
  have third : (s₂.handle (.demand "b")).1 = Answer.soldOut.reply := by decide +kernel
  have begun : Served { stock := 1 } [] s₀ := .start
  have served := ((begun.request (.demand "a")).request (.demand "a")).request (.demand "b")
  have safe := sales_are_safe served
  refine ⟨_, _, served, ?_, safe.1, safe.2.2.2.2.2⟩
  exact List.cons_eq_cons.mpr ⟨third, List.cons_eq_cons.mpr ⟨second,
    List.cons_eq_cons.mpr ⟨first, rfl⟩⟩⟩

end PrecheckLoad
