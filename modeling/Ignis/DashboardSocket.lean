import Ignis.Runs
import Mathlib.Algebra.Group.Nat.Hom

-- The connection of a dashboard, `useIgnisSocket.ts`: one mounted effect with its sockets and timers.
namespace Ignis.DashboardSocket
open Runs

inductive Phase where
  | connecting | opened | closing | closed
deriving DecidableEq

inductive Connection where
  | connecting | live | reconnecting
deriving DecidableEq

-- `socket` is the last of the sockets, and `timer` the id of the last timer that was set.
structure Hook where
  stopped : Bool
  retry : ℕ
  sockets : List Phase
  timer : ℕ
  pending : List (ℕ × ℕ)
  connection : Connection

def delay (retry : ℕ) : ℕ := min 10000 (500 * 2 ^ min 5 (retry - 1))

def Hook.connect (hook : Hook) : Hook :=
  if hook.stopped then hook
  else { hook with
    connection := if hook.retry ≠ 0 then .reconnecting else .connecting
    sockets := hook.sockets ++ [.connecting] }

def mounted : Hook := Hook.connect ⟨false,0,[],0,[],.connecting⟩

def Hook.last (hook : Hook) : Option Phase := hook.sockets[hook.sockets.length - 1]?

def Hook.close (hook : Hook) : Hook :=
  if hook.last = some .connecting ∨ hook.last = some .opened then
    { hook with sockets := hook.sockets.set (hook.sockets.length - 1) .closing }
  else hook

def Hook.retryLater (hook : Hook) : Hook :=
  { hook with
    retry := hook.retry + 1
    connection := .reconnecting
    timer := hook.timer + 1
    pending := hook.pending ++ [(hook.timer + 1,delay (hook.retry + 1))] }

-- A closed socket has no more events, and only an open one receives messages.
inductive Input where
  | opened (socket : ℕ)
  | message (socket : ℕ) (snapshot : Bool)
  | closing (socket : ℕ)
  | errored (socket : ℕ)
  | closed (socket : ℕ)
  | fired (timer : ℕ)
  | unmount

def Hook.alive (hook : Hook) (socket : ℕ) : Bool := hook.sockets[socket]?.any fun phase => phase ≠ .closed

def step (hook : Hook) : Input → Hook
  | .opened socket =>
    if hook.sockets[socket]? = some .connecting then
      { hook with sockets := hook.sockets.set socket .opened, retry := 0, connection := .live }
    else hook
  | .message socket snapshot =>
    if hook.sockets[socket]? = some .opened ∧ snapshot = true then { hook with connection := .live } else hook
  | .closing socket =>
    if hook.alive socket then { hook with sockets := hook.sockets.set socket .closing } else hook
  | .errored socket => if hook.alive socket then hook.close else hook
  | .closed socket =>
    if hook.alive socket then
      let next := { hook with sockets := hook.sockets.set socket .closed }
      if hook.stopped then next else next.retryLater
    else hook
  | .fired timer =>
    if hook.pending.any (fun waiting => waiting.1 = timer) then
      Hook.connect { hook with pending := hook.pending.filter fun waiting => waiting.1 ≠ timer }
    else hook
  | .unmount => Hook.close { hook with
      stopped := true
      pending := hook.pending.filter fun waiting => waiting.1 ≠ hook.timer }

structure Sound (hook : Hook) : Prop where
  made : hook.sockets ≠ []
  older : ∀ i, i + 1 < hook.sockets.length → hook.sockets[i]? = some .closed
  waits : hook.last = some .closed → hook.stopped = false → hook.pending = [(hook.timer,delay hook.retry)] ∧ 0 < hook.retry
  idle : hook.last ≠ some .closed ∨ hook.stopped = true → hook.pending = []
  ended : hook.stopped = true → hook.last = some .closing ∨ hook.last = some .closed
  shown : hook.stopped = false → hook.connection = .live → hook.last = some .opened ∨ hook.last = some .closing
  live : hook.last = some .opened → hook.connection = .live

variable {hook : Hook} {input : Input} {socket : ℕ} {phase : Phase}

theorem Sound.pending_cases (sound : Sound hook) :
    hook.pending = [] ∨ hook.pending = [(hook.timer,delay hook.retry)] := by
  by_cases past : hook.last ≠ some .closed ∨ hook.stopped = true
  · exact .inl (sound.idle past)
  · simp only [ne_eq,not_or,not_not,Bool.not_eq_true] at past
    exact .inr (sound.waits past.1 past.2).1

theorem sound_mounted : Sound mounted := by
  refine ⟨by decide,?_,by decide,by decide,by decide,by decide,by decide⟩
  intro i before
  exact absurd before (by simp [mounted,Hook.connect])

theorem Sound.current (sound : Sound hook) (found : hook.sockets[socket]? = some phase) (alive : phase ≠ .closed) :
    socket + 1 = hook.sockets.length ∧ hook.last = some phase := by
  have inside := (List.getElem?_eq_some_iff.mp found).1
  have here : socket + 1 = hook.sockets.length := by
    by_contra other
    have closed := sound.older socket (by omega)
    rw [found] at closed
    exact alive (Option.some.inj closed)
  refine ⟨here,?_⟩
  rw [Hook.last,← here]
  exact found

theorem last_set (here : socket + 1 = hook.sockets.length) {next : Hook} (sockets : next.sockets = hook.sockets.set socket phase) :
    next.last = some phase := by
  have length : next.sockets.length = hook.sockets.length := by rw [sockets,List.length_set]
  rw [Hook.last,length,← here,sockets]
  exact List.getElem?_set_self (by omega)

theorem sound_set (sound : Sound hook) (here : socket + 1 = hook.sockets.length) {next : Hook}
    (sockets : next.sockets = hook.sockets.set socket phase)
    (waits : phase = .closed → next.stopped = false → next.pending = [(next.timer,delay next.retry)] ∧ 0 < next.retry)
    (idle : phase ≠ .closed ∨ next.stopped = true → next.pending = [])
    (ended : next.stopped = true → phase = .closing ∨ phase = .closed)
    (shown : next.stopped = false → next.connection = .live → phase = .opened ∨ phase = .closing)
    (live : phase = .opened → next.connection = .live) : Sound next := by
  have length : next.sockets.length = hook.sockets.length := by rw [sockets,List.length_set]
  have last : next.last = some phase := last_set here sockets
  refine ⟨?_,?_,?_,?_,?_,?_,?_⟩
  · exact List.ne_nil_of_length_pos (by omega)
  · intro i before
    rw [sockets,List.getElem?_set_ne (by omega)]
    exact sound.older i (by omega)
  all_goals rw [last]
  · exact fun closed => waits (Option.some.inj closed)
  · exact fun past => idle (past.imp_left fun other same => other (congrArg some same))
  · exact fun stopped => (ended stopped).imp (congrArg some) (congrArg some)
  · exact fun runs is_live => (shown runs is_live).imp (congrArg some) (congrArg some)
  · exact fun opened => live (Option.some.inj opened)

theorem sound_close (sound : Sound hook) : Sound hook.close := by
  unfold Hook.close
  split
  · rename_i either
    have length := List.length_pos_of_ne_nil sound.made
    have here : hook.sockets.length - 1 + 1 = hook.sockets.length := by omega
    have alive : hook.last ≠ some .closed := by rcases either with same | same <;> simp [same]
    refine sound_set sound here rfl nofun (fun _ => sound.idle (.inl alive)) (fun _ => .inl rfl) (fun _ _ => .inr rfl) nofun
  · exact sound

theorem Sound.alive (sound : Sound hook) (alive : hook.alive socket = true) :
    socket + 1 = hook.sockets.length ∧ hook.last ≠ some .closed := by
  obtain ⟨phase,found,other⟩ := (Option.any_eq_true ..).mp alive
  obtain ⟨here,last⟩ := sound.current found (of_decide_eq_true other)
  exact ⟨here,fun closed => of_decide_eq_true other (Option.some.inj (last.symm.trans closed))⟩

theorem sound_connect (sound : Sound hook) (runs : hook.stopped = false) (closed : hook.last = some .closed) :
    Sound (Hook.connect { hook with pending := [] }) := by
  have made : Hook.connect { hook with pending := [] } = { hook with
      pending := []
      connection := if hook.retry ≠ 0 then .reconnecting else .connecting
      sockets := hook.sockets ++ [.connecting] } := by
    unfold Hook.connect
    simp [runs]
  have last : (Hook.connect { hook with pending := [] }).last = some .connecting := by
    rw [made,Hook.last]
    simp
  refine ⟨?_,?_,?_,?_,?_,?_,?_⟩
  · rw [made]
    simp
  · intro i before
    rw [made] at before ⊢
    simp only [List.length_append,List.length_singleton] at before
    dsimp only
    rw [List.getElem?_append_left (by omega)]
    by_cases older : i + 1 < hook.sockets.length
    · exact sound.older i older
    · obtain rfl : i = hook.sockets.length - 1 := by omega
      exact closed
  all_goals rw [last]
  · exact nofun
  · exact fun _ => by rw [made]
  · exact fun stopped => by rw [made] at stopped; exact absurd (runs.symm.trans stopped) nofun
  · rintro _ is_live
    rw [made] at is_live
    dsimp only at is_live
    split at is_live <;> cases is_live
  · exact nofun

theorem sound_unmount (sound : Sound hook) : Sound (Hook.close { hook with stopped := true, pending := [] }) := by
  have length := List.length_pos_of_ne_nil sound.made
  have here : hook.sockets.length - 1 + 1 = hook.sockets.length := by omega
  unfold Hook.close
  split
  · exact sound_set sound here rfl nofun (fun _ => rfl) (fun _ => .inl rfl) nofun nofun
  · rename_i neither
    have ended : hook.last = some .closing ∨ hook.last = some .closed := by
      obtain ⟨phase,last⟩ : ∃ phase, hook.last = some phase := ⟨_,List.getElem?_eq_getElem (by omega)⟩
      have other : ¬(hook.last = some .connecting ∨ hook.last = some .opened) := neither
      cases phase <;> simp_all
    refine ⟨sound.made,sound.older,nofun,fun _ => rfl,fun _ => ended,nofun,sound.live⟩

theorem sound_step (sound : Sound hook) : Sound (step hook input) := by
  cases input with
  | opened socket =>
    simp only [step]
    split
    · rename_i found
      obtain ⟨here,last⟩ := sound.current found nofun
      refine sound_set sound here rfl nofun (fun _ => sound.idle (.inl (by simp [last]))) (fun stopped => ?_)
        (fun _ _ => .inl rfl) fun _ => rfl
      rcases sound.ended stopped with ended | ended <;> rw [last] at ended <;> cases ended
    · exact sound
  | message socket snapshot =>
    simp only [step]
    split
    · rename_i received
      obtain ⟨_,last⟩ := sound.current received.1 nofun
      exact ⟨sound.made,sound.older,sound.waits,sound.idle,sound.ended,fun _ _ => .inl last,fun _ => rfl⟩
    · exact sound
  | closing socket =>
    simp only [step]
    split
    · rename_i alive
      obtain ⟨here,open_⟩ := sound.alive alive
      exact sound_set sound here rfl nofun (fun _ => sound.idle (.inl open_)) (fun _ => .inl rfl) (fun _ _ => .inr rfl) nofun
    · exact sound
  | errored socket =>
    simp only [step]
    split
    · exact sound_close sound
    · exact sound
  | closed socket =>
    simp only [step]
    split
    · rename_i alive
      obtain ⟨here,open_⟩ := sound.alive alive
      have idle := sound.idle (.inl open_)
      split
      · rename_i stopped
        exact sound_set sound here rfl (fun _ runs => absurd (runs.symm.trans stopped) nofun) (fun _ => idle)
          (fun _ => .inr rfl) (fun runs => absurd (runs.symm.trans stopped) nofun) nofun
      · rename_i runs
        have waits : hook.pending ++ [(hook.timer + 1,delay (hook.retry + 1))] = [(hook.timer + 1,delay (hook.retry + 1))] := by
          rw [idle,List.nil_append]
        exact sound_set sound here rfl (fun _ _ => ⟨waits,Nat.succ_pos _⟩)
          (fun past => absurd (past.resolve_left fun other => other rfl) runs) (fun stopped => absurd stopped runs)
          (fun _ shown => nomatch shown) nofun
    · exact sound
  | fired timer =>
    simp only [step]
    split
    · rename_i waiting
      have waits : hook.pending ≠ [] := by
        rintro empty
        rw [empty] at waiting
        cases waiting
      have closed : hook.last = some .closed := by
        by_contra other
        exact waits (sound.idle (.inl other))
      have runs : hook.stopped = false := by
        by_contra stopped
        exact waits (sound.idle (.inr (by simpa using stopped)))
      obtain ⟨pending,_⟩ := sound.waits closed runs
      have emptied : hook.pending.filter (fun waiting => waiting.1 ≠ timer) = [] := by
        rw [pending] at waiting ⊢
        simpa using waiting
      rw [emptied]
      exact sound_connect sound runs closed
    · exact sound
  | unmount =>
    have cleared : hook.pending.filter (fun waiting => waiting.1 ≠ hook.timer) = [] := by
      rcases sound.pending_cases with idle | waits
      · rw [idle]
        rfl
      · rw [waits]
        simp
    simp only [step,cleared]
    exact sound_unmount sound

theorem sound_run (inputs : List Input) : Sound (run step mounted inputs) :=
  invariant Sound (fun _ _ => sound_step) sound_mounted

def Hook.living (hook : Hook) : ℕ := hook.sockets.countP fun phase => phase ≠ .closed

theorem Sound.living (sound : Sound hook) : hook.living = if hook.last = some .closed then 0 else 1 := by
  obtain ⟨older,phase,sockets⟩ : ∃ older phase, hook.sockets = older ++ [phase] :=
    ⟨_,_,(List.dropLast_append_getLast sound.made).symm⟩
  have last : hook.last = some phase := by
    rw [Hook.last,sockets]
    simp
  have gone : older.countP (fun phase => phase ≠ .closed) = 0 := by
    refine List.countP_eq_zero.mpr fun earlier member => ?_
    obtain ⟨i,inside,rfl⟩ := List.getElem_of_mem member
    have closed := sound.older i (by rw [sockets]; simpa using inside)
    rw [sockets,List.getElem?_append_left inside,List.getElem?_eq_getElem inside] at closed
    simpa using closed
  rw [last,Hook.living,sockets,List.countP_append,gone]
  cases phase <;> rfl

theorem close_made (hook : Hook) : hook.close.sockets.length = hook.sockets.length := by
  unfold Hook.close
  split
  · exact List.length_set
  · rfl

theorem close_stopped (hook : Hook) : hook.close.stopped = hook.stopped := by
  unfold Hook.close
  split <;> rfl

theorem stopped_step (stopped : hook.stopped = true) :
    (step hook input).stopped = true ∧ (step hook input).sockets.length = hook.sockets.length ∧
      (step hook input).timer = hook.timer := by
  cases input with
  | fired timer =>
    simp only [step]
    split
    · simp [Hook.connect,stopped]
    · exact ⟨stopped,rfl,rfl⟩
  | unmount => exact ⟨close_stopped _,close_made _,by simp only [step,Hook.close]; split <;> rfl⟩
  | errored socket =>
    simp only [step]
    split
    · exact ⟨(close_stopped _).trans stopped,close_made _,by unfold Hook.close; split <;> rfl⟩
    · exact ⟨stopped,rfl,rfl⟩
  | _ =>
    simp only [step]
    split
    · simp [stopped]
    · exact ⟨stopped,rfl,rfl⟩

theorem stopped_run (stopped : hook.stopped = true) (inputs : List Input) :
    (run step hook inputs).stopped = true ∧ (run step hook inputs).sockets.length = hook.sockets.length ∧
      (run step hook inputs).timer = hook.timer := by
  refine invariant (fun later : Hook =>
    later.stopped = true ∧ later.sockets.length = hook.sockets.length ∧ later.timer = hook.timer) ?_ ⟨stopped,rfl,rfl⟩
  intro later input ⟨past,length,timer⟩
  have next : (step later input).stopped = true ∧ (step later input).sockets.length = later.sockets.length ∧
      (step later input).timer = later.timer := stopped_step past
  exact ⟨next.1,next.2.1.trans length,next.2.2.trans timer⟩

theorem Sound.recovers (sound : Sound hook) (runs : hook.stopped = false) :
    ∃ inputs : List Input, inputs.length ≤ 3 ∧ (run step hook inputs).connection = .live := by
  have opens (hook : Hook) (socket : ℕ) (found : hook.sockets[socket]? = some .connecting) :
      (step hook (.opened socket)).connection = .live := by
    simp [step,found]
  have fires (hook : Hook) (sound : Sound hook) (runs : hook.stopped = false) (closed : hook.last = some .closed) :
      (run step hook [.fired hook.timer,.opened hook.sockets.length]).connection = .live := by
    refine opens _ _ ?_
    have waiting := (sound.waits closed runs).1
    simp [step,waiting,Hook.connect,runs]
  obtain ⟨phase,last⟩ : ∃ phase, hook.last = some phase := by
    have length := List.length_pos_of_ne_nil sound.made
    exact ⟨_,List.getElem?_eq_getElem (by omega)⟩
  cases phase with
  | connecting => exact ⟨[.opened (hook.sockets.length - 1)],by simp,opens _ _ last⟩
  | opened => exact ⟨[],by decide,sound.live last⟩
  | closing =>
    set next := step hook (.closed (hook.sockets.length - 1)) with same
    have made : next = Hook.retryLater { hook with sockets := hook.sockets.set (hook.sockets.length - 1) .closed } := by
      have found : hook.sockets[hook.sockets.length - 1]? = some .closing := last
      simp [same,step,Hook.alive,found,runs]
    have length := List.length_pos_of_ne_nil sound.made
    have closed : next.last = some .closed := by
      rw [made]
      simp only [Hook.retryLater,Hook.last,List.length_set]
      exact List.getElem?_set_self (by omega)
    refine ⟨[.closed (hook.sockets.length - 1),.fired next.timer,.opened next.sockets.length],by simp,?_⟩
    exact fires next (same ▸ sound_step sound) (by rw [made]; exact runs) closed
  | closed => exact ⟨[.fired hook.timer,.opened hook.sockets.length],by simp,fires hook sound runs last⟩

-- What the browser has delivered: the sockets that opened, and how many were closed since the
-- last of them did.
structure Delivered where
  opened : List ℕ
  failures : ℕ

def Delivered.note (delivered : Delivered) (hook : Hook) : Input → Delivered
  | .opened socket => if hook.sockets[socket]? = some .connecting then ⟨socket :: delivered.opened,0⟩ else delivered
  | .closed socket => if hook.alive socket then { delivered with failures := delivered.failures + 1 } else delivered
  | .message .. | .closing _ | .errored _ | .fired _ | .unmount => delivered

def deliveries : Hook → Delivered → List Input → Delivered
  | _,delivered,[] => delivered
  | hook,delivered,input :: rest => deliveries (step hook input) (delivered.note hook input) rest

structure Told (hook : Hook) (delivered : Delivered) : Prop where
  counts : hook.stopped = false → hook.retry = delivered.failures
  met : hook.last = some .opened → hook.sockets.length - 1 ∈ delivered.opened
  shown : hook.stopped = false → hook.connection = .live → hook.sockets.length - 1 ∈ delivered.opened

variable {delivered : Delivered}

theorem told_close (told : Told hook delivered) : Told hook.close delivered := by
  unfold Hook.close
  split
  · rename_i either
    have length : (hook.sockets.set (hook.sockets.length - 1) .closing).length = hook.sockets.length := List.length_set
    refine ⟨told.counts,fun last => ?_,fun runs live => ?_⟩
    · have inside : hook.sockets.length - 1 < hook.sockets.length := by
        rcases either with same | same <;> exact (List.getElem?_eq_some_iff.mp same).1
      rw [Hook.last,length,List.getElem?_set_self inside] at last
      cases last
    · rw [length]
      exact told.shown runs live
  · exact told

theorem told_step (sound : Sound hook) (told : Told hook delivered) : Told (step hook input) (delivered.note hook input) := by
  cases input with
  | opened socket =>
    simp only [step,Delivered.note]
    split
    · rename_i found
      obtain ⟨here,_⟩ := sound.current found nofun
      have own : (hook.sockets.set socket .opened).length - 1 ∈ socket :: delivered.opened := by
        rw [List.length_set,← here]
        exact List.mem_cons_self
      exact ⟨fun _ => rfl,fun _ => own,fun _ _ => own⟩
    · exact told
  | message socket snapshot =>
    simp only [step,Delivered.note]
    split
    · rename_i received
      obtain ⟨_,last⟩ := sound.current received.1 nofun
      exact ⟨told.counts,told.met,fun _ _ => told.met last⟩
    · exact told
  | closing socket =>
    simp only [step,Delivered.note]
    split
    · rename_i alive
      have last : Hook.last { hook with sockets := hook.sockets.set socket .closing } = some .closing :=
        last_set (sound.alive alive).1 rfl
      refine ⟨told.counts,fun opened => ?_,fun runs live => ?_⟩
      · rw [last] at opened
        cases opened
      · rw [List.length_set]
        exact told.shown runs live
    · exact told
  | errored socket =>
    simp only [step,Delivered.note]
    split
    · exact told_close told
    · exact told
  | closed socket =>
    simp only [step,Delivered.note]
    split
    · rename_i alive
      have last : Hook.last { hook with sockets := hook.sockets.set socket .closed } = some .closed :=
        last_set (sound.alive alive).1 rfl
      split
      · rename_i stopped
        refine ⟨fun runs => absurd (runs.symm.trans stopped) nofun,fun opened => ?_,
          fun runs => absurd (runs.symm.trans stopped) nofun⟩
        rw [last] at opened
        cases opened
      · rename_i runs
        refine ⟨fun _ => congrArg (· + 1) (told.counts (by simpa using runs)),fun opened => ?_,fun _ live => nomatch live⟩
        cases last.symm.trans opened
    · exact told
  | fired timer =>
    simp only [step,Delivered.note]
    split
    · unfold Hook.connect
      split
      · exact ⟨told.counts,told.met,told.shown⟩
      · refine ⟨told.counts,fun opened => ?_,fun _ live => ?_⟩
        · simp [Hook.last] at opened
        · dsimp only at live
          split at live <;> cases live
    · exact told
  | unmount =>
    have down : Told { hook with stopped := true, pending := hook.pending.filter fun waiting => waiting.1 ≠ hook.timer } delivered :=
      ⟨nofun,told.met,nofun⟩
    exact told_close down

theorem told_run (sound : Sound hook) (told : Told hook delivered) (inputs : List Input) :
    Told (run step hook inputs) (deliveries hook delivered inputs) := by
  induction inputs generalizing hook delivered with
  | nil => exact told
  | cons input rest ih => exact ih (sound_step sound) (told_step sound told)

theorem delay_doubles (retry : ℕ) : delay retry = min 10000 (500 * 2 ^ (retry - 1)) := by
  unfold delay
  rcases Nat.le_total 5 (retry - 1) with many | few
  · have power : 2 ^ 5 ≤ 2 ^ (retry - 1) := Nat.pow_le_pow_right (by decide) many
    rw [Nat.min_eq_left many]
    omega
  · rw [Nat.min_eq_right few]

-- A hook that is not taken down has a connection or a timer, never both. What it calls LIVE has been opened, and
-- a timer waits the longer the more sockets were closed since one last opened.
theorem one_connection (inputs : List Input) :
    let hook := run step mounted inputs
    let delivered := deliveries mounted ⟨[],0⟩ inputs
    hook.living ≤ 1 ∧
    (∀ waiting ∈ hook.pending, 0 < delivered.failures ∧ waiting.2 = min 10000 (500 * 2 ^ (delivered.failures - 1))) ∧
    (hook.stopped = false →
      hook.living + hook.pending.length = 1 ∧
      (hook.connection = .live → hook.sockets.length - 1 ∈ delivered.opened ∧
        (hook.last = some .opened ∨ hook.last = some .closing)) ∧
      (hook.last = some .opened → hook.connection = .live) ∧
      ∃ more : List Input, more.length ≤ 3 ∧ (run step hook more).connection = .live) ∧
    (hook.stopped = true → ∀ more,
      (run step hook more).pending = [] ∧ (run step hook more).sockets.length = hook.sockets.length ∧
        (run step hook more).timer = hook.timer) := by
  intro hook delivered
  have sound : Sound hook := sound_run inputs
  have told : Told hook delivered := told_run sound_mounted ⟨fun _ => rfl,nofun,nofun⟩ inputs
  have living := sound.living
  refine ⟨?_,?_,?_,?_⟩
  · rw [living]
    split <;> omega
  · intro waiting member
    have runs : hook.stopped = false := by
      by_contra stopped
      rw [sound.idle (.inr (by simpa using stopped))] at member
      cases member
    have closed : hook.last = some .closed := by
      by_contra other
      rw [sound.idle (.inl other)] at member
      cases member
    obtain ⟨waits,failed⟩ := sound.waits closed runs
    rw [waits,List.mem_singleton] at member
    subst member
    rw [← told.counts runs]
    exact ⟨failed,delay_doubles hook.retry⟩
  · intro runs
    refine ⟨?_,fun live => ⟨told.shown runs live,sound.shown runs live⟩,sound.live,sound.recovers runs⟩
    rw [living]
    split
    · rename_i closed
      rw [(sound.waits closed runs).1]
      rfl
    · rename_i alive
      rw [sound.idle (.inl alive)]
      rfl
  · intro stopped more
    obtain ⟨past,kept⟩ := stopped_run stopped more
    have later : Sound (run step hook more) := invariant Sound (fun _ _ => sound_step) sound
    exact ⟨later.idle (.inr past),kept⟩

end Ignis.DashboardSocket
