import Ignis.TaskExclusion

namespace Ignis.Backend
open Tables Database Communications Escalation

def hangsUp (app : App) (tick : Tick) : Option ℕ :=
  match tick.input with
  | .providerAnswered attemptId _ => bif awaited app attemptId then some attemptId else none
  | .resume id =>
    match app.timeoutManager.tasks.find id with
    | none => none
    | some task =>
      match task.phase,task.cancelled with
      | .calling attemptId,true => some attemptId
      | _,_ => none
  | _ => none

def posts (settings : Settings) (db : Database) (incidentId : String) : Bool :=
  settings.callProvider = .elevenlabs && !(db.getIncident incidentId).any contextRaises

variable {settings : Settings} {app next : App} {tick : Tick} {now : Time} {incidentId : String} {gone : Option ℕ}
variable {attemptId : ℕ} {call : PendingCall}

def StaysOut (app next : App) (gone : Option ℕ) : Prop := ∀ call ∈ app.calls.rows, gone ≠ some call.attemptId → call ∈ next.calls.rows

theorem staysOut_same (same : next.calls = app.calls) : StaysOut app next gone := by
  intro call member _
  rw [same]
  exact member

theorem staysOut_erase (erased : next.calls = app.calls.erase attemptId) : StaysOut app next (some attemptId) := by
  intro call member other
  rw [erased]
  exact Table.mem_erase.mpr ⟨member,fun same => other (congrArg some same.symm)⟩

theorem staysOut_suspended {caller : Option ℕ} (waits : next.calls = (suspendCall app attemptId incidentId caller).calls) :
    StaysOut app next gone := by
  intro call member _
  rw [waits]
  unfold suspendCall
  cases found : app.calls.find attemptId with
  | none =>
    rw [Table.rows_upsert_absent found]
    exact List.mem_append_left _ member
  | some old =>
    rw [Table.rows_upsert_present found]
    simpa using member

theorem staysOut_placed {task : ResponseTask} (placed : Database × ℕ × Progress) : StaysOut app (dialled app task placed) gone := by
  unfold dialled
  cases placed.2.2 with
  | accepted => exact staysOut_same rfl
  | raised => exact staysOut_same rfl
  | posting => exact staysOut_suspended rfl

theorem staysOut_dial {task : ResponseTask} : StaysOut app (dial settings app now task) gone := by
  unfold dial
  split
  · exact staysOut_same rfl
  · split
    · exact staysOut_same rfl
    · exact staysOut_placed _

theorem staysOut_wake {task : ResponseTask} : StaysOut app (wake app now task) gone := by
  unfold wake
  split
  · exact staysOut_same rfl
  · split_ifs <;> exact staysOut_same rfl

theorem staysOut_resume (id : ℕ) : StaysOut app (resume settings app now id) (hangsUp app ⟨now,.resume id⟩) := by
  simp only [resume,hangsUp]
  cases app.timeoutManager.tasks.find id with
  | none => exact staysOut_same rfl
  | some task =>
    cases phase : task.phase with
    | calling attemptId =>
      cases cancelled : task.cancelled with
      | true =>
        simp only [phase,cancelled]
        exact staysOut_erase rfl
      | false =>
        simp only [phase,cancelled]
        exact staysOut_same rfl
    | sleeping =>
      cases cancelled : task.cancelled with
      | true =>
        simp only [phase,cancelled]
        exact staysOut_same rfl
      | false =>
        simp only [phase,cancelled]
        exact staysOut_wake
    | announcing =>
      cases cancelled : task.cancelled with
      | true =>
        simp only [phase,cancelled]
        exact staysOut_same rfl
      | false =>
        simp only [phase,cancelled]
        exact staysOut_dial
    | created | reporting | done =>
      cases cancelled : task.cancelled <;>
        simp only [phase,cancelled] <;>
        exact staysOut_same rfl

theorem staysOut_answered (attemptId : ℕ) (answer : ProviderAnswer) :
    StaysOut app (providerAnswered app now attemptId answer) (hangsUp app ⟨now,.providerAnswered attemptId answer⟩) := by
  simp only [providerAnswered,hangsUp,awaited,turn]
  cases app.calls.find attemptId with
  | none => exact staysOut_same rfl
  | some call =>
    cases waits : call.caller with
    | none =>
      simp only [waits,Option.all_none,cond_true]
      cases answer.outcome <;> exact staysOut_erase rfl
    | some id =>
      simp only [waits,Option.all_some]
      cases app.timeoutManager.tasks.find id with
      | none => exact staysOut_same rfl
      | some task =>
        cases cancelled : task.cancelled with
        | true =>
          simp only [Option.filter_some,cancelled,if_true]
          exact staysOut_same rfl
        | false =>
          simp only [Option.filter_some,cancelled,Bool.not_false,if_true,Option.isSome_some,Bool.false_eq_true,if_false,cond_true]
          cases answer.outcome <;> exact staysOut_erase rfl

theorem staysOut_reply {ε : Type} {reply : Except ε App} (kept : ∀ next, reply = .ok next → StaysOut app next gone) :
    StaysOut app (orUnchanged app reply) gone := by
  cases reply with
  | error _ => exact staysOut_same rfl
  | ok next => exact kept next rfl

theorem staysOut_step (lives : tick.input ≠ .restart) : StaysOut app (step settings app tick) (hangsUp app tick) := by
  obtain ⟨now,input⟩ := tick
  cases input with
  | putArming allowed armed =>
    cases allowed <;> exact staysOut_same rfl
  | confirm allowed incidentId source =>
    obtain ⟨_,accepted⟩ | ⟨_,refusal,refused⟩ := confirm_cases app now allowed incidentId source
    · simp only [step,accepted]
      exact staysOut_same rfl
    · simp only [step,refused]
      exact staysOut_same rfl
  | cancel allowed incidentId reason source =>
    obtain ⟨_,accepted⟩ | ⟨_,refusal,refused⟩ := cancel_cases app now allowed incidentId reason source
    · simp only [step,accepted]
      exact staysOut_same rfl
    · simp only [step,refused]
      exact staysOut_same rfl
  | reset allowed incidentId =>
    obtain ⟨_,_,_,accepted⟩ | ⟨_,refusal,refused⟩ := reset_cases app now allowed incidentId
    · simp only [step,accepted]
      exact staysOut_same rfl
    · simp only [step,refused]
      exact staysOut_same rfl
  | callDemoDispatch allowed incidentId =>
    obtain ⟨_,accepted⟩ | ⟨_,refusal,refused⟩ := callDemoDispatch_cases settings app now allowed incidentId
    · simp only [step,accepted]
      unfold dispatched
      cases (placedCall settings app.database now incidentId).2.2 with
      | accepted => exact staysOut_same rfl
      | raised => exact staysOut_same rfl
      | posting => exact staysOut_suspended rfl
    · simp only [step,refused]
      exact staysOut_same rfl
  | providerCallStatus secret body =>
    refine staysOut_reply fun next done => staysOut_same ?_
    unfold providerCallStatus at done
    split at done
    · cases done
    · cases done
    · split at done
      · cases done
      · cases done
        rfl
  | providerAnswered attemptId answer => exact staysOut_answered attemptId answer
  | packet hello packet =>
    refine staysOut_reply fun next done => staysOut_same ?_
    cases packet with
    | incidentUpdate data =>
      simp only [dispatch] at done
      split at done
      · cases done
        rfl
      · split at done
        · cases done
        · cases done
          rfl
    | timelineEvent data =>
      simp only [dispatch] at done
      split at done
      · cases done
      · split at done
        · cases done
        · cases done
          rfl
    | invalidUpdate error =>
      simp only [dispatch] at done
      split at done
      · cases done
        rfl
      · cases done
    | malformed _ | unexpected _ => cases done
    | _ =>
      cases done
      rfl
  | announced incidentId =>
    simp only [step,announced]
    split <;> exact staysOut_same rfl
  | resume id => exact staysOut_resume id
  | restart => exact absurd rfl lives

theorem mem_suspendCall {caller : Option ℕ} (orderly : Orderly app) :
    ∃ call ∈ (suspendCall app app.database.callAttempts.next incidentId caller).calls.rows, call.incidentId = incidentId := by
  have absent : app.calls.find app.database.callAttempts.next = none := by
    refine Table.find_none_iff.mpr fun call member => ?_
    have older := (orderly.waiting call member).1
    omega
  refine ⟨⟨app.database.callAttempts.next,incidentId,caller⟩,?_,rfl⟩
  unfold suspendCall
  rw [Table.rows_upsert_absent absent]
  exact List.mem_append_right _ List.mem_cons_self

theorem placedCall_posts (now : Time) (posting : posts settings app.database incidentId = true) :
    (placedCall settings app.database now incidentId).2 = (app.database.callAttempts.next,.posting) := by
  obtain ⟨provider,tells⟩ : settings.callProvider = .elevenlabs ∧ ¬ (app.database.getIncident incidentId).any contextRaises = true := by
    simpa [posts] using posting
  simp only [placedCall,if_neg tells,provider]

theorem called_out (orderly : Orderly app) (called : effect settings app tick = .called incidentId)
    (posting : posts settings app.database incidentId = true) :
    ∃ call ∈ (step settings app tick).calls.rows, call.incidentId = incidentId := by
  have placed (now : Time) := placedCall_posts now posting
  have caused := effect_caused settings app tick
  rw [called] at caused
  cases caused with
  | dispatch armed gate =>
    rename_i now
    obtain ⟨_,accepted⟩ | ⟨closed,_⟩ := callDemoDispatch_cases settings app now true incidentId
    · simp only [step,accepted,orUnchanged,dispatched,placed]
      exact mem_suspendCall orderly
    · simp only [armed,gate,Bool.and_true] at closed
      cases closed
  | dial dialling gate =>
    rename_i now id
    obtain ⟨task,found,kept,phase,rfl⟩ : ∃ task, app.timeoutManager.tasks.find id = some task ∧ task.cancelled = false ∧
        task.phase = .announcing ∧ task.incidentId = incidentId := by
      unfold dials turn at dialling
      split at dialling
      · cases dialling
      · rename_i task there
        obtain ⟨found,kept⟩ := Option.filter_eq_some_iff.mp there
        split at dialling
        · rename_i ready
          cases dialling
          exact ⟨task,found,by simpa using kept,by simpa using (Bool.and_eq_true_iff.mp ready).1,rfl⟩
        · cases dialling
    obtain ⟨_,accepted⟩ | ⟨closed,_⟩ := requestDemoCall_cases settings app.database now task.incidentId
    · have enabled : settings.demoCallsEnabled = true := by
        simp only [callable,Bool.and_eq_true] at gate
        exact gate.1.1.1
      simp only [step,resume,found,phase,kept,dial,enabled,accepted,dialled,placed]
      exact mem_suspendCall orderly
    · rw [closed] at gate
      cases gate

end Ignis.Backend
