import CopyTrader.Lib.Cursor
import CopyTrader.Telegram.Commands
import Mathlib.Logic.Relation

/-!
# The poll for updates

The loop of the bot against Telegram's queue of updates. Requests and answers are abandoned at any
time: an event of the trading tasks drops the request that waits, a request fails after it was served,
an abandoned one arrives late, and the bot may stop between any two updates and start again.
-/

namespace CopyTrader.Telegram
open Lib Lib.Cursor

/-- An update with its id. Other kinds of updates than texts and presses have nothing else. -/
abbrev Numbered := ℤ × Option Update

def TgBot.handle (bot : TgBot) (manager : GroupManager F64) (update : Numbered) : GroupManager F64 :=
  update.2.elim manager fun update => (bot.handleUpdate manager update).1

structure Polling where
  manager : GroupManager F64
  offset : ℤ
  /-- The updates of the last answer that are not handled yet. -/
  inbox : List Numbered
  /-- The offset of the request that the bot waits for, until Telegram has served it. -/
  asked : Option ℤ
  answer : Option (List Numbered)
  /-- The offsets of requests that the bot waits for no more. -/
  abandoned : List ℤ
  /-- All updates that Telegram ever had for the bot. -/
  log : List Numbered
  /-- Telegram has forgotten the updates below. -/
  confirmed : ℤ
  /-- The groups at the last start. -/
  loaded : GroupManager F64
  /-- The updates handled since the last start, and those handled before. -/
  handled : List Numbered
  earlier : List Numbered

namespace Polling

def start (manager : GroupManager F64) : Polling where
  manager := manager
  offset := 0
  inbox := []
  asked := none
  answer := none
  abandoned := []
  log := []
  confirmed := 0
  loaded := manager
  handled := []
  earlier := []

/-- The steps of `run` and of Telegram. -/
inductive Step (bot : TgBot) (s : Polling) : Polling → Prop
  /-- Telegram numbers its updates upwards from a positive number. -/
  | post {update : Numbered} (positive : 0 < update.1) (later : ∀ u ∈ s.log, u.1 < update.1) :
    Step bot s { s with log := s.log ++ [update] }
  | getUpdates (ready : s.inbox = []) (idle : s.asked = none) (read : s.answer = none) :
    Step bot s { s with asked := some s.offset }
  /-- A request confirms the updates below its offset and is given the first of the others. -/
  | serve {offset : ℤ} (waiting : s.asked = some offset) {batch : List Numbered}
    (given : batch <+: since s.log (max offset s.confirmed)) :
    Step bot s { s with asked := none, answer := some batch, confirmed := max offset s.confirmed }
  | serveLate {offset : ℤ} (late : offset ∈ s.abandoned) : Step bot s { s with confirmed := max offset s.confirmed }
  /-- An event comes first, or the request fails. -/
  | abandon : Step bot s { s with asked := none, answer := none, abandoned := s.asked.toList ++ s.abandoned }
  | receive {updates : List Numbered} (arrived : s.answer = some updates) :
    Step bot s { s with answer := none, inbox := updates }
  | handle {update : Numbered} {updates : List Numbered} (next : s.inbox = update :: updates) :
    Step bot s
      { s with
        offset := if update.1 ≥ s.offset then update.1 + 1 else s.offset
        manager := bot.handle s.manager update
        inbox := updates
        handled := s.handled ++ [update] }
  /-- The process ends and begins again with the groups that it finds saved. -/
  | restart (saved : GroupManager F64) :
    Step bot s
      { s with
        manager := saved
        offset := 0
        inbox := []
        asked := none
        answer := none
        abandoned := s.asked.toList ++ s.abandoned
        loaded := saved
        handled := []
        earlier := s.earlier ++ s.handled }

def Reaches (bot : TgBot) (manager : GroupManager F64) : Polling → Prop :=
  Relation.ReflTransGen (Step bot) (start manager)

/-- All updates below have been handled, and there were updates up to there. -/
structure Passed (s : Polling) (c : ℤ) : Prop where
  within : c ≤ 0 ∨ ∃ u ∈ s.log, c ≤ u.1 + 1
  done : ∀ u ∈ s.log, u.1 < c → u ∈ s.earlier ++ s.handled
  /-- In a run without a restart the bot itself has passed it. -/
  own : s.earlier = [] → c ≤ s.offset

/-- The updates of an answer are the next ones after a number that was passed. -/
def Follows (s : Polling) (updates : List Numbered) : Prop :=
  ∃ c, s.offset ≤ c ∧ s.Passed c ∧ updates <+: since s.log c

structure Kept (bot : TgBot) (s : Polling) : Prop where
  ascending : Ascending s.log
  positive : ∀ u ∈ s.log, 0 < u.1
  offset : s.Passed s.offset
  confirmed : s.Passed s.confirmed
  abandoned : ∀ o ∈ s.abandoned, s.Passed o
  asked : ∀ o ∈ s.asked, o = s.offset ∧ s.inbox = []
  once : s.asked = none ∨ s.answer = none
  inbox : s.Follows s.inbox
  answer : ∀ updates ∈ s.answer, s.inbox = [] ∧ s.Follows updates
  /-- The updates since the last start were handled upwards, on the groups of then. -/
  order : (s.handled.map Prod.fst).Pairwise (· < ·)
  behind : ∀ u ∈ s.handled, u.1 < s.offset
  fresh : s.handled = [] → s.offset = 0
  posted : s.earlier ++ s.handled ⊆ s.log
  store : s.manager = s.handled.foldl bot.handle s.loaded
  exact : s.earlier = [] → s.handled = before s.log s.offset

section
variable {bot : TgBot} {s s' : Polling} {c : ℤ}

theorem Passed.mono (passed : s.Passed c) (log : s.log ⊆ s'.log) (new : ∀ u ∈ s'.log, u ∉ s.log → c ≤ u.1)
    (history : s.earlier ++ s.handled ⊆ s'.earlier ++ s'.handled) (own : s'.earlier = [] → c ≤ s'.offset) :
    s'.Passed c where
  within := passed.within.imp_right fun ⟨u, member, near⟩ => ⟨u, log member, near⟩
  done := by
    intro u member below
    by_cases old : u ∈ s.log
    · exact history (passed.done u old below)
    · exact absurd (new u member old) (not_le.mpr below)
  own := own

theorem Passed.max {d : ℤ} (passed : s.Passed c) (passed' : s.Passed d) : s.Passed (max c d) := by
  rcases max_choice c d with same | same
  · rw [same]
    exact passed
  · rw [same]
    exact passed'

/-- No update is posted below a number that was passed. -/
theorem Passed.le_later {update : Numbered} (passed : s.Passed c) (positive : 0 < update.1)
    (later : ∀ u ∈ s.log, u.1 < update.1) : c ≤ update.1 := by
  rcases passed.within with none | ⟨u, member, near⟩
  · omega
  · have after := later u member
    omega

theorem Passed.post {update : Numbered} (passed : s.Passed c) (positive : 0 < update.1)
    (later : ∀ u ∈ s.log, u.1 < update.1) : ({ s with log := s.log ++ [update] } : Polling).Passed c := by
  refine passed.mono (List.subset_append_left ..) ?_ (List.Subset.refl _) passed.own
  intro u member new
  rcases List.mem_append.mp member with old | last
  · exact absurd old new
  · exact List.mem_singleton.mp last ▸ passed.le_later positive later

theorem Follows.post {updates : List Numbered} {update : Numbered} (follows : s.Follows updates) (positive : 0 < update.1)
    (later : ∀ u ∈ s.log, u.1 < update.1) : ({ s with log := s.log ++ [update] } : Polling).Follows updates := by
  obtain ⟨c, ahead, passed, given⟩ := follows
  exact ⟨c, ahead, passed.post positive later, prefix_concat given update⟩

theorem start_kept (bot : TgBot) (manager : GroupManager F64) : (start manager).Kept bot where
  ascending := List.Pairwise.nil
  positive := nofun
  offset := ⟨.inl le_rfl, nofun, fun _ => le_rfl⟩
  confirmed := ⟨.inl le_rfl, nofun, fun _ => le_rfl⟩
  abandoned := nofun
  asked := nofun
  once := .inl rfl
  inbox := ⟨0, le_rfl, ⟨.inl le_rfl, nofun, fun _ => le_rfl⟩, List.nil_prefix⟩
  answer := nofun
  order := List.Pairwise.nil
  behind := nofun
  fresh _ := rfl
  posted := nofun
  store := rfl
  exact _ := rfl

theorem Kept.post (kept : s.Kept bot) {update : Numbered} (positive : 0 < update.1) (later : ∀ u ∈ s.log, u.1 < update.1) :
    ({ s with log := s.log ++ [update] } : Polling).Kept bot where
  ascending := kept.ascending.concat later
  positive := List.forall_mem_append.mpr ⟨kept.positive, List.forall_mem_singleton.mpr positive⟩
  offset := kept.offset.post positive later
  confirmed := kept.confirmed.post positive later
  abandoned o among := (kept.abandoned o among).post positive later
  asked := kept.asked
  once := kept.once
  inbox := kept.inbox.post positive later
  answer updates arrived := ⟨(kept.answer updates arrived).1, (kept.answer updates arrived).2.post positive later⟩
  order := kept.order
  behind := kept.behind
  fresh := kept.fresh
  posted := List.Subset.trans kept.posted (List.subset_append_left ..)
  store := kept.store
  exact first := by
    have ahead := kept.offset.le_later positive later
    have same : before (s.log ++ [update]) s.offset = before s.log s.offset := by
      rw [before, List.filter_append, List.filter_cons_of_neg (by simpa using ahead), List.filter_nil, List.append_nil]
      rfl
    exact (kept.exact first).trans same.symm

/-- What the steps of asking and answering leave alone. -/
theorem Kept.served (kept : s.Kept bot) {asked : Option ℤ} {answer : Option (List Numbered)} {abandoned : List ℤ}
    {confirmed : ℤ} {inbox : List Numbered} (passed : s.Passed confirmed) (passed' : ∀ o ∈ abandoned, s.Passed o)
    (asks : ∀ o ∈ asked, o = s.offset ∧ inbox = []) (once : asked = none ∨ answer = none) (follows : s.Follows inbox)
    (answers : ∀ updates ∈ answer, inbox = [] ∧ s.Follows updates) :
    ({ s with asked := asked, answer := answer, abandoned := abandoned, confirmed := confirmed, inbox := inbox } :
      Polling).Kept bot where
  ascending := kept.ascending
  positive := kept.positive
  offset := ⟨kept.offset.within, kept.offset.done, kept.offset.own⟩
  confirmed := ⟨passed.within, passed.done, passed.own⟩
  abandoned o among := ⟨(passed' o among).within, (passed' o among).done, (passed' o among).own⟩
  asked := asks
  once := once
  inbox := by
    obtain ⟨c, ahead, passed, given⟩ := follows
    exact ⟨c, ahead, ⟨passed.within, passed.done, passed.own⟩, given⟩
  answer updates arrived := by
    obtain ⟨idle, c, ahead, passed, given⟩ := answers updates arrived
    exact ⟨idle, c, ahead, ⟨passed.within, passed.done, passed.own⟩, given⟩
  order := kept.order
  behind := kept.behind
  fresh := kept.fresh
  posted := kept.posted
  store := kept.store
  exact := kept.exact

theorem Kept.handle (kept : s.Kept bot) {update : Numbered} {updates : List Numbered} (next : s.inbox = update :: updates) :
    ({ s with
        offset := if update.1 ≥ s.offset then update.1 + 1 else s.offset
        manager := bot.handle s.manager update
        inbox := updates
        handled := s.handled ++ [update] } : Polling).Kept bot := by
  obtain ⟨c, ahead, passed, given⟩ := kept.inbox
  rw [next] at given
  obtain ⟨member, reached⟩ := first_mem given
  have forward : s.offset ≤ update.1 := ahead.trans reached
  rw [if_pos forward]
  have larger : s.offset ≤ update.1 + 1 := by omega
  have keeps {d : ℤ} (passed : s.Passed d) : ({ s with
      offset := update.1 + 1, manager := bot.handle s.manager update, inbox := updates
      handled := s.handled ++ [update] } : Polling).Passed d := by
    refine passed.mono (List.Subset.refl _) (fun u member new => absurd member new) ?_ ?_
    · exact List.append_assoc .. ▸ List.subset_append_left ..
    · exact fun first => (passed.own first).trans larger
  have reached : ({ s with
      offset := update.1 + 1, manager := bot.handle s.manager update, inbox := updates
      handled := s.handled ++ [update] } : Polling).Passed (update.1 + 1) := by
    refine ⟨.inr ⟨update, member, le_rfl⟩, fun u among below => ?_, fun _ => le_rfl⟩
    rcases mem_of_le kept.ascending given among below with old | rfl
    · exact (keeps passed).done u among old
    · exact List.mem_append_right _ List.mem_concat_self
  have waits : s.asked = none := by
    cases asked : s.asked with
    | none => rfl
    | some o => exact nomatch next.symm.trans (kept.asked o asked).2
  have quiet : s.answer = none := by
    cases answer : s.answer with
    | none => rfl
    | some batch => exact nomatch next.symm.trans (kept.answer batch answer).1
  exact {
    ascending := kept.ascending
    positive := kept.positive
    offset := reached
    confirmed := keeps kept.confirmed
    abandoned := fun o among => keeps (kept.abandoned o among)
    asked := fun o asked => nomatch waits.symm.trans asked
    once := .inl waits
    inbox := ⟨update.1 + 1, le_rfl, reached, since_succ kept.ascending given⟩
    answer := fun batch arrived => nomatch quiet.symm.trans arrived
    order := by
      rw [List.map_append, List.pairwise_append]
      refine ⟨kept.order, List.pairwise_singleton .., fun i handled j last => ?_⟩
      obtain ⟨u, among, rfl⟩ := List.mem_map.mp handled
      rw [List.mem_singleton.mp last]
      exact (kept.behind u among).trans_le forward
    behind := by
      refine List.forall_mem_append.mpr ⟨fun u among => (kept.behind u among).trans_le larger, ?_⟩
      exact List.forall_mem_singleton.mpr (Int.lt_succ _)
    fresh := fun none => absurd none (List.append_ne_nil_of_right_ne_nil _ (List.cons_ne_nil _ _))
    posted := by
      rw [← List.append_assoc]
      exact List.append_subset.mpr ⟨kept.posted, List.cons_subset.mpr ⟨member, List.nil_subset _⟩⟩
    store := by rw [List.foldl_append, ← kept.store]; rfl
    exact := by
      intro first
      have here : c = s.offset := le_antisymm (passed.own first) ahead
      rw [before_succ kept.ascending given, here, ← kept.exact first] }

theorem Kept.restart (kept : s.Kept bot) (saved : GroupManager F64) :
    ({ s with
        manager := saved
        offset := 0
        inbox := []
        asked := none
        answer := none
        abandoned := s.asked.toList ++ s.abandoned
        loaded := saved
        handled := []
        earlier := s.earlier ++ s.handled } : Polling).Kept bot := by
  have nowhere : ∀ u ∈ s.log, ¬ u.1 < 0 := fun u member => not_lt.mpr (kept.positive u member).le
  have keeps {d : ℤ} (passed : s.Passed d) : ({ s with
      manager := saved, offset := 0, inbox := [], asked := none, answer := none
      abandoned := s.asked.toList ++ s.abandoned, loaded := saved, handled := []
      earlier := s.earlier ++ s.handled } : Polling).Passed d := by
    refine passed.mono (List.Subset.refl _) (fun u member new => absurd member new) (List.subset_append_left ..) ?_
    intro first
    obtain ⟨first, fresh⟩ := List.append_eq_nil_iff.mp first
    exact (passed.own first).trans_eq (kept.fresh fresh)
  have zero : ({ s with
      manager := saved, offset := 0, inbox := [], asked := none, answer := none
      abandoned := s.asked.toList ++ s.abandoned, loaded := saved, handled := []
      earlier := s.earlier ++ s.handled } : Polling).Passed 0 :=
    ⟨.inl le_rfl, fun u member below => absurd below (nowhere u member), fun _ => le_rfl⟩
  exact {
    ascending := kept.ascending
    positive := kept.positive
    offset := zero
    confirmed := keeps kept.confirmed
    abandoned := by
      intro o among
      rcases List.mem_append.mp among with waited | old
      · rw [(kept.asked o (Option.mem_toList.mp waited)).1]
        exact keeps kept.offset
      · exact keeps (kept.abandoned o old)
    asked := nofun
    once := .inl rfl
    inbox := ⟨0, le_rfl, zero, List.nil_prefix⟩
    answer := nofun
    order := List.Pairwise.nil
    behind := nofun
    fresh := fun _ => rfl
    posted := by
      rw [List.append_nil]
      exact kept.posted
    store := rfl
    exact := fun _ => (List.filter_eq_nil_iff.mpr fun u member => by simpa using nowhere u member).symm }

theorem Step.kept (step : Step bot s s') (kept : s.Kept bot) : s'.Kept bot := by
  cases step with
  | post positive later => exact kept.post positive later
  | getUpdates ready idle read =>
    refine kept.served kept.confirmed kept.abandoned ?_ (.inr read) kept.inbox kept.answer
    exact fun o asked => ⟨Option.some.inj asked.symm, ready⟩
  | serve waiting given =>
    obtain ⟨same, ready⟩ := kept.asked _ waiting
    have passed := same ▸ kept.offset.max kept.confirmed
    refine kept.served passed kept.abandoned nofun (.inl rfl) kept.inbox ?_
    rintro updates ⟨⟩
    exact ⟨ready, _, same ▸ le_max_left .., passed, given⟩
  | serveLate late =>
    have passed := (kept.abandoned _ late).max kept.confirmed
    exact kept.served passed kept.abandoned kept.asked kept.once kept.inbox kept.answer
  | abandon =>
    refine kept.served kept.confirmed ?_ nofun (.inl rfl) kept.inbox nofun
    intro o among
    rcases List.mem_append.mp among with waited | old
    · exact (kept.asked o (Option.mem_toList.mp waited)).1 ▸ kept.offset
    · exact kept.abandoned o old
  | receive arrived =>
    have waits : s.asked = none := kept.once.resolve_right fun quiet => nomatch quiet.symm.trans arrived
    obtain ⟨ready, follows⟩ := kept.answer _ arrived
    exact kept.served kept.confirmed kept.abandoned (fun o asked => nomatch waits.symm.trans asked) (.inl waits)
      follows nofun
  | handle next => exact kept.handle next
  | restart saved => exact kept.restart saved

theorem Kept.run (kept : s.Kept bot) (run : Relation.ReflTransGen (Step bot) s s') : s'.Kept bot := by
  induction run with
  | refl => exact kept
  | tail _ step ih => exact step.kept ih

theorem Reaches.kept {manager : GroupManager F64} (run : Reaches bot manager s) : s.Kept bot :=
  (start_kept bot manager).run run

/-- The loop over the updates of an answer, without an end of the process in between. -/
theorem handles_inbox (bot : TgBot) (s : Polling) :
    ∃ s', Relation.ReflTransGen (Step bot) s s' ∧ s'.inbox = [] ∧ s'.asked = s.asked ∧ s'.answer = s.answer ∧
      s'.log = s.log ∧ s'.earlier = s.earlier ∧ s'.handled = s.handled ++ s.inbox := by
  generalize left : s.inbox = updates
  induction updates generalizing s with
  | nil => exact ⟨s, .refl, left, rfl, rfl, rfl, rfl, (List.append_nil _).symm⟩
  | cons update updates ih =>
    obtain ⟨s', run, idle, asked, answer, log, earlier, handled⟩ := ih
      { s with
        offset := if update.1 ≥ s.offset then update.1 + 1 else s.offset
        manager := bot.handle s.manager update
        inbox := updates
        handled := s.handled ++ [update] } rfl
    refine ⟨s', .head (.handle left) run, idle, asked, answer, log, earlier, handled.trans ?_⟩
    rw [List.append_assoc, List.singleton_append]

/-- From any state, one more answer brings what is left. -/
theorem Kept.catches_up (kept : s.Kept bot) :
    ∃ s', Relation.ReflTransGen (Step bot) s s' ∧ s'.log = s.log ∧ s'.earlier = s.earlier ∧
      ∀ u ∈ s.log, u ∈ s'.earlier ++ s'.handled := by
  obtain ⟨idle, first, ready, waits, quiet, log, earlier, -⟩ := handles_inbox bot
    { s with asked := none, answer := none, abandoned := s.asked.toList ++ s.abandoned }
  have run : Relation.ReflTransGen (Step bot) s idle := .head .abandon first
  have kept' : idle.Kept bot := kept.run run
  let c := max idle.offset idle.confirmed
  have passed : idle.Passed c := kept'.offset.max kept'.confirmed
  let asking : Polling := { idle with asked := some idle.offset }
  let served : Polling := { idle with asked := none, answer := some (since idle.log c), confirmed := c }
  let received : Polling := { idle with asked := none, answer := none, inbox := since idle.log c, confirmed := c }
  have ask : Step bot idle asking := .getUpdates ready waits quiet
  have serve : Step bot asking served := .serve rfl List.prefix_rfl
  have receive : Step bot served received := .receive rfl
  obtain ⟨last, second, -, -, -, log', earlier', handled⟩ := handles_inbox bot received
  refine ⟨last, run.trans (.head ask (.head serve (.head receive second))), log'.trans log, earlier'.trans earlier, ?_⟩
  intro u member
  have here : u ∈ idle.log := log ▸ member
  rw [earlier', handled, ← List.append_assoc]
  by_cases below : u.1 < c
  · exact List.mem_append_left _ (passed.done u here below)
  · exact List.mem_append_right _ (mem_since.mpr ⟨here, not_lt.mp below⟩)

end

end Polling

/-- In every state of the poll, the updates since the last start were handled upwards and each once, on the
groups found then. Only posted updates are handled, and all of those below the offset, now or in an
earlier start; without anything handled earlier they are exactly the handled ones. Telegram forgets only
updates that were handled, and the others can still come. -/
theorem updates_handled {bot : TgBot} {manager : GroupManager F64} {s : Polling} (run : Polling.Reaches bot manager s) :
    ((s.handled.map Prod.fst).Pairwise (· < ·) ∧ s.manager = s.handled.foldl bot.handle s.loaded) ∧
    (s.earlier ++ s.handled ⊆ s.log ∧ (∀ u ∈ s.log, u.1 < s.offset → u ∈ s.earlier ++ s.handled) ∧
      (∀ u ∈ s.handled, u.1 < s.offset) ∧ (s.earlier = [] → s.handled = before s.log s.offset)) ∧
    (∀ u ∈ s.log, u.1 < s.confirmed → u ∈ s.earlier ++ s.handled) ∧
    ∃ s', Relation.ReflTransGen (Polling.Step bot) s s' ∧ s'.log = s.log ∧ s'.earlier = s.earlier ∧
      ∀ u ∈ s.log, u ∈ s'.earlier ++ s'.handled := by
  have kept := run.kept
  exact ⟨⟨kept.order, kept.store⟩, ⟨kept.posted, kept.offset.done, kept.behind, kept.exact⟩, kept.confirmed.done,
    kept.catches_up⟩

/-- The first answer is lost; the update comes again with the second one. -/
theorem sample_update_handled :
    let bot : TgBot := ⟨sampleConfig, "5"⟩
    let update : Numbered := (7, some (.message 5 "/set tp 20%"))
    ∃ s, Polling.Reaches bot (GroupManager.load sampleConfig none) s ∧ s.abandoned = [0] ∧ s.log = [update] ∧
      s.offset = 8 ∧ s.handled = before s.log s.offset := by
  intro bot update
  let empty := Polling.start (GroupManager.load sampleConfig none)
  let posted : Polling := { empty with log := [update] }
  let asked : Polling := { posted with asked := some 0 }
  let lost : Polling := { posted with abandoned := [0] }
  let again : Polling := { lost with asked := some 0 }
  let answered : Polling := { lost with answer := some [update] }
  let received : Polling := { lost with inbox := [update] }
  have steps : Relation.ReflTransGen (Polling.Step bot) asked received := by
    refine .head (b := lost) .abandon (.head (b := again) (.getUpdates rfl rfl rfl) ?_)
    refine .head (b := answered) (.serve (s := again) rfl ?_) (.single (.receive rfl))
    exact List.prefix_rfl
  have opening : Polling.Reaches bot (GroupManager.load sampleConfig none) asked :=
    .head (b := posted) (.post (by decide) nofun) (.single (.getUpdates rfl rfl rfl))
  have run := (opening.trans steps).tail (.handle rfl)
  exact ⟨_, run, rfl, rfl, rfl, (updates_handled run).2.1.2.2.2 rfl⟩

end CopyTrader.Telegram
