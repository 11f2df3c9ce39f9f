import CopyTrader.Tasks.Alphabet

/-!
# Balance reads

What the balance reads of a task show. The fallback monitor and the sales judge a position by their
last read, an error counting as zero.
-/

namespace CopyTrader.Tasks
open Lib AutoSell Tx Program

def shown (e : Moment) : Option ℕ :=
  match e.op, e.answer with
  | .rpcTokenBalance _, .ok (some amount) => some amount.val
  | .ataCacheGet _, some amount => some amount.val
  | _, _ => none

/-- A balance request, however it ends, or a balance found in the cache. -/
def isRead (e : Moment) : Bool :=
  match e.op, e.answer with
  | .rpcTokenBalance _, _ => true
  | .ataCacheGet _, some _ => true
  | _, _ => false

def judges : Op → Bool
  | .fallbackConfirm .. | .confirmFailed .. => true
  | _ => false

/-- Follows the last read; a position is judged by what it showed. -/
def readMonitor : Monitor World Op Ans (Option Moment) where
  trusts _ := True
  allows last
    | .fallbackConfirm _ balance => ∃ e, last = some e ∧ balance = (shown e).getD 0
    | .confirmFailed .. => ∃ e, last = some e ∧ (shown e).getD 0 = 0
    | _ => True
  next last e := if isRead e then some e else last

def lastRead (past : List Moment) : Option Moment := readMonitor.after none past

theorem lastRead_mem {past : List Moment} {e : Moment} (last : lastRead past = some e) : e ∈ past := by
  induction past using List.reverseRecOn with
  | nil => cases last
  | append_singleton past e' ih =>
    unfold lastRead at last
    rw [Monitor.after_snoc] at last
    dsimp only [readMonitor] at last
    split at last
    · obtain rfl := Option.some.inj last
      simp
    · exact List.mem_append_left _ (ih last)

/-! ### Judging by the last read -/

variable {setup : Setup} {last : Option Moment}

def turnsRead : Op → Bool
  | .rpcTokenBalance _ | .ataCacheGet _ => true
  | op => judges op

theorem quiet_of_unread {op : Op} (other : turnsRead op = false) : readMonitor.Quiet op := by
  cases op <;> first | exact ⟨fun _ => trivial, fun _ _ _ => rfl⟩ | cases other

theorem keeps_unjudged {op : Op} (other : judges op = false) : readMonitor.Keeps (fun _ => True) op := by
  cases op <;> first | exact fun _ _ => ⟨trivial, fun _ _ _ => trivial⟩ | cases other

theorem unjudged {α : Type} {x : Prog α} {alphabet : Op → Bool} (within : Within alphabet x)
    (other : ∀ op, alphabet op = true → judges op = false) : wp readMonitor (fun _ _ => True) x last :=
  wp_keeps (uses_mono (fun op member => keeps_unjudged (other op member)) within) trivial

theorem directBalance_shown {w : World} {account : Pubkey} (answer : BalanceAnswer) :
    directBalance answer = (shown ⟨w, .rpcTokenBalance account, answer⟩).getD 0 := by
  cases answer with
  | joinError | rpcError => rfl
  | ok amount => cases amount <;> rfl

theorem fallbackCheck_judges {key : PositionKey} :
    wp readMonitor (fun _ _ => True) (fallbackCheck setup key) last := by
  refine wp_quiet_bind (uses_call.mpr (quiet_of_unread rfl)) fun found => ?_
  cases found with
  | none => trivial
  | some snapshot =>
    refine wp_quiet_bind (uses_call.mpr (quiet_of_unread rfl)) fun t => ?_
    apply wp_ite
    · -- the confirm check goes by the balance it has just asked for
      intro _
      apply wp_perform trivial
      intro w answer _
      exact ⟨⟨_, rfl, directBalance_shown answer⟩, fun _ _ _ => trivial⟩
    · intro _
      have quotes : Uses readMonitor.Quiet (fallbackQuote snapshot) :=
        uses_bind (uses_call.mpr (quiet_of_unread rfl)) fun curve =>
          uses_ite (uses_call.mpr (quiet_of_unread rfl)) trivial
      refine wp_quiet_bind quotes fun quote => ?_
      apply wp_perform trivial
      intro _ signal _
      cases signal with
      | none => trivial
      | some signal => exact ⟨trivial, fun _ _ _ => trivial⟩

theorem fallbackPass_judges : wp readMonitor (fun _ _ => True) (fallbackPass setup) last := by
  have checks (keys : List PositionKey) (last : Option Moment) :
      wp readMonitor (fun _ _ => True) (fallbackChecks setup keys) last := by
    induction keys generalizing last with
    | nil => trivial
    | cons key rest ih => exact wp_seq fallbackCheck_judges fun _ last' _ => ih last'
  apply wp_perform trivial
  intro _ keys _
  apply wp_ite
  · intro _
    trivial
  · intro _
    exact wp_seq (checks keys _) fun _ _ _ => ⟨trivial, fun _ _ _ => trivial⟩

theorem bondingCurveUpdate_judges {mint : Pubkey} {state : Processor.BondingCurveState} :
    wp readMonitor (fun _ _ => True) (bondingCurveUpdate mint state) last := by
  have quiet (keys : List PositionKey) : Uses readMonitor.Quiet (grpcChecks state keys) := by
    induction keys with
    | nil => trivial
    | cons key rest ih =>
      refine uses_bind (uses_call.mpr (quiet_of_unread rfl)) fun signal => uses_bind ?_ fun _ => ih
      cases signal with
      | none => trivial
      | some signal => exact uses_call.mpr (quiet_of_unread rfl)
  exact wp_perform trivial fun _ keys _ => wp_quiet (quiet keys) fun _ => trivial

theorem currentBalance_shown {mint userAta : Pubkey} :
    wp readMonitor (fun balance last => ∃ e, last = some e ∧ balance = (shown e).getD 0)
      (currentBalance mint userAta) last := by
  apply wp_perform trivial
  intro w cached _
  cases cached with
  | some amount => exact ⟨_, rfl, rfl⟩
  | none =>
    apply wp_perform trivial
    intro w answer _
    exact ⟨_, rfl, directBalance_shown answer⟩

theorem marked_unjudged (op : Op) (marked : op.ofMarked = true) : judges op = false := by
  cases op <;> first | rfl | cases marked

theorem sellPosition_judges {signal : SellSignal} {position : Position} {snapshot : Option SellAccountSnapshot} :
    wp readMonitor (fun _ _ => True) (sellPosition setup signal position snapshot) last := by
  apply wp_seq currentBalance_shown
  intro balance last' sized
  apply wp_ite
  · -- the zero-balance skip goes by the balance that sizes the sale
    intro nothing
    obtain ⟨e, rfl, rfl⟩ := sized
    have zero : (shown e).getD 0 = 0 := by
      split at nothing <;> omega
    refine wp_quiet_bind (uses_call.mpr (quiet_of_unread rfl)) fun skips => ?_
    apply wp_ite
    · intro _
      exact ⟨⟨e, rfl, zero⟩, fun _ _ _ => trivial⟩
    · intro _
      trivial
  · intro _
    apply wp_perform trivial
    intro _ marked _
    apply wp_ite
    · intro _
      exact unjudged sellMarked_within marked_unjudged
    · intro _
      trivial

theorem handleSellSignal_judges {signal : SellSignal} :
    wp readMonitor (fun _ _ => True) (handleSellSignal setup signal) last := by
  apply handleSellSignal_wp trivial
  · exact fun _ => quiet_of_unread rfl
  · exact fun _ _ => trivial
  · exact fun _ position snapshot => sellPosition_judges

theorem handlePartialSell_judges {groupId : String} {mint : Pubkey} {percent : ℕ} :
    wp readMonitor (fun _ _ => True) (handlePartialSell setup groupId mint percent) last := by
  apply handlePartialSell_wp trivial
  · exact fun _ _ => trivial
  · exact fun _ _ position => handleSellSignal_judges
  · intro _ _ position
    apply wp_perform trivial
    intro _ marked _
    apply wp_ite
    · intro _
      exact unjudged partialSellMarked_within marked_unjudged
    · intro _
      trivial

/-- Every task but a buy's confirmation judges by its last read. -/
theorem code_judges {role : Role} (other : ∀ c, role ≠ .confirm c) :
    wp readMonitor (fun _ _ => True) (role.code setup) none := by
  have within := code_within setup role
  cases role with
  | confirm c => exact absurd rfl (other c)
  | sell signal => exact handleSellSignal_judges
  | partialSell groupId mint percent => exact handlePartialSell_judges
  | fallback => exact fallbackPass_judges
  | grpc mint state => exact bondingCurveUpdate_judges
  | _ => exact unjudged within fun op member => by cases op <;> first | rfl | cases member

theorem judges_by_last {s : State} {ok : State → Step → Prop}
    (reach : (process setup).Reachable World.Starts ok s) {i : ℕ} {t : TaskState} {op : Op}
    {next : Ans op → Prog Unit} (here : s.tasks[i]? = some t) (rest : t.rest = .perform op next)
    (other : ∀ c, t.role ≠ .confirm c) : readMonitor.allows (lastRead t.past) op :=
  reach.allows_trusting readMonitor none (fun role => ∀ c, role ≠ .confirm c) (fun _ => trivial)
    (fun _ other => code_judges other) here other rest

/-- The reads a task judges a position by: a confirm task by all of its reads, any other by the last. -/
def decidingReads (t : TaskState) : List Moment :=
  match t.role with
  | .confirm _ => t.past
  | _ => (lastRead t.past).toList

theorem decidingReads_confirm {t : TaskState} {c : ConfirmTask} (confirms : t.role = .confirm c) :
    decidingReads t = t.past := by
  simp [decidingReads, confirms]

theorem mem_decidingReads {t : TaskState} {e : Moment} (other : ∀ c, t.role ≠ .confirm c) :
    e ∈ decidingReads t ↔ lastRead t.past = some e := by
  unfold decidingReads
  split
  · rename_i c confirms
    exact absurd confirms (other c)
  · exact Option.mem_toList

theorem decidingReads_past {t : TaskState} {e : Moment} (decides : e ∈ decidingReads t) : e ∈ t.past := by
  unfold decidingReads at decides
  split at decides
  · exact decides
  · exact lastRead_mem (Option.mem_toList.mp decides)

theorem ledger_grows {s : State} {ok : State → Step → Prop}
    (reach : (process setup).Reachable World.Starts ok s) {i : ℕ} {t : TaskState} {e : Moment}
    (here : s.tasks[i]? = some t) (seen : e ∈ t.past) : e.world.ledger <+: s.world.ledger := by
  refine (reach.past_ordered (R := fun w w' => w.ledger <+: w'.ledger) (fun _ => List.prefix_rfl)
    (fun _ _ _ => List.IsPrefix.trans) ?_ ?_ here).1 e seen
  · intro w op choice answer w' reply
    exact (World.respond_frame reply).ledger ▸ List.prefix_rfl
  · exact fun w env w' change => (World.disturb_drift change).ledger

/-- The step answers no balance request with another amount than the account holds. -/
def answersTruly (s : State) (step : Step) : Bool :=
  match step, performed s step with
  | .run _ (.balance (.ok (some amount))), some (.rpcTokenBalance account) =>
    amount.val = Ledger.balance s.world.ledger account
  | _, _ => true

/-- Every successful balance request shows the true balance. -/
def Truthful (s : State) (step : Step) : Prop := answersTruly s step = true

instance (s : State) (step : Step) : Decidable (Truthful s step) := inferInstanceAs (Decidable (_ = true))

end CopyTrader.Tasks
