import ThermalGovernor.Client.Runs
import ThermalGovernor.Server.Workers

/-!
# The registration of a worker

The epoch goes to the worker as the text of a number, and the worker looks for it behind
`epoch=`.  `registered_enrolled` : when the worker says that it is registered, the coordinator
has registered it and its device, and the epoch that it says is the coordinator's.
-/

namespace ThermalGovernor

open Lib Format Talk Did Protocol Governor Server

/-! ### Codes -/

theorem ThermalErrorCode.value_eq_zero {code : ThermalErrorCode} (h : code.value = 0) :
    code = .none := by
  cases code <;> first | rfl | cases h

theorem ThermalErrorCode.value_lt (code : ThermalErrorCode) : code.value < 2 ^ 32 := by
  cases code <;> decide

/-! ### Refusals -/

namespace Server

variable {g g' : Governor} {registration : WorkerRegistration} {e : ThermalError}

theorem code_of_registerDevice {device : DeviceRegistration}
    (h : (g.registerDevice device).2 = .error e) : e.code ≠ .none := by
  unfold registerDevice at h
  split at h
  · rename_i refused hchecks
    obtain rfl := Except.error.inj h
    obtain ⟨check, hcheck, -, rfl⟩ := runChecks_eq_error hchecks
    simp only [deviceChecks, List.mem_cons, List.not_mem_nil, or_false] at hcheck
    rcases hcheck with rfl | rfl | rfl | rfl <;> nofun
  · cases h

theorem code_of_enrol {worker : WorkerId} {boot : WorkerBootId} {label : String}
    (h : (g.enrol worker boot label).2 = .error e) : e.code ≠ .none := by
  unfold enrol at h
  split at h
  · obtain rfl := Except.error.inj h
    decide
  · cases h

theorem code_of_registerWorker {worker : WorkerId} {boot : WorkerBootId} {label : String}
    (h : (g.registerWorker worker boot label).2 = .error e) : e.code ≠ .none := by
  unfold registerWorker at h
  split at h
  · obtain rfl := Except.error.inj h
    decide
  · split at h
    · exact code_of_enrol h
    · split at h
      · obtain rfl := Except.error.inj h
        decide
      · split at h
        · cases h
        · exact code_of_enrol h

/-- A refusal has a code. -/
theorem Refuses.code (h : Refuses g registration e g') : e.code ≠ .none := by
  obtain ⟨_, -, hworker | ⟨-, _, _, _, _, -, -, hdevice, -⟩⟩ := h
  · exact code_of_registerWorker hworker
  · exact code_of_registerDevice hdevice

end Server

/-! ### What a worker makes of the answer -/

namespace Worker

variable {w : Worker} {epoch told : CoordinatorEpoch}

theorem behind_append (mark rest : List Char) (hmark : mark ≠ []) :
    behind mark (mark ++ rest) = some rest := by
  cases mark with
  | nil => exact absurd rfl hmark
  | cons c mark =>
    have hprefix : (c :: mark).isPrefixOf (c :: (mark ++ rest)) = true :=
      List.isPrefixOf_iff_prefix.mpr ⟨rest, rfl⟩
    rw [List.cons_append, behind, if_pos hprefix, ← List.cons_append, List.drop_left]

theorem toldEpoch_welcome (known epoch : CoordinatorEpoch) :
    toldEpoch known ("epoch=" ++ decimal epoch) = epoch % wordSize := by
  unfold toldEpoch
  rw [String.toList_append, behind_append _ _ (by decide), Option.bind_some,
    String.ofList_toList, Session.parseU64_decimal, Option.getD_some]

theorem decode_welcome (epoch : CoordinatorEpoch) :
    Wire.decodeResponse {} (Wire.encodeResponse (welcome (.ok ()) epoch)) =
      .ok (welcome (.ok ()) epoch) := by
  have hlength : (welcome (.ok ()) epoch).payload.length ≤ 26 := by
    have hdecimal := length_decimal_le epoch
    have hmark : "epoch=".length = 6 := rfl
    show ("epoch=" ++ decimal epoch).length ≤ 26
    rw [String.length_append]
    omega
  have hchars : ∀ c ∈ (welcome (.ok ()) epoch).payload.toList, c.toNat < 256 := by
    show ∀ c ∈ ("epoch=" ++ decimal epoch).toList, c.toNat < 256
    rw [String.toList_append]
    intro c hc
    rcases List.mem_append.mp hc with hmark | hdigit
    · have hmarks : "epoch=".toList.all (·.toNat < 256) = true := rfl
      exact of_decide_eq_true (List.all_eq_true.mp hmarks c hmark)
    · have hdigits : (decimal epoch).toList = Nat.toDigits 10 (epoch % wordSize) :=
        toList_unsignedDecimal _
      rw [hdigits] at hdigit
      have hnine : '9'.toNat = 57 := rfl
      have hle := (Char.isDigit_iff_toNat.mp (isDigit_of_mem_toDigits hdigit)).2
      omega
  refine (Wire.decodeResponse_iff ?_).mpr ⟨Nat.zero_le _, hlength.trans (by decide)⟩
  simp only [Input.FitsAll, Wire.writeResponse, List.forall_mem_cons]
  exact ⟨(by decide : 0 < 2 ^ 32),
    ⟨(by decide : 0 < 2 ^ 32), List.forall_mem_nil _⟩,
    ⟨lt_of_le_of_lt hlength (by decide), hchars⟩, List.forall_mem_nil _⟩

/-- **A worker that goes on was registered, and knows the epoch.** -/
theorem readWelcome_welcomed {status : Status} {known : CoordinatorEpoch}
    (herror : ∀ e, status = .error e → e.code ≠ .none)
    (h : readWelcome known (welcomed status epoch) = some told) :
    status = .ok () ∧ told = epoch % wordSize := by
  cases status with
  | ok u =>
    unfold welcomed readWelcome at h
    rw [if_neg (fun hne => hne rfl)] at h
    dsimp only at h
    rw [decode_welcome] at h
    dsimp only at h
    rw [if_neg (fun hne => hne rfl)] at h
    refine ⟨rfl, ?_⟩
    rw [← toldEpoch_welcome known epoch]
    exact (Option.some.inj h).symm
  | error e =>
    have hcode : (welcome (.error e) epoch).status.code = e.code.value := rfl
    unfold welcomed readWelcome at h
    rw [if_neg (fun hne => hne rfl)] at h
    dsimp only at h
    split at h
    · cases h
    · rename_i response hdecode
      have hresponse := Wire.code_of_decodeResponse (hcode ▸ e.code.value_lt) hdecode
      rw [hresponse, hcode] at h
      split at h
      · cases h
      · rename_i hnone
        exact absurd (ThermalErrorCode.value_eq_zero (not_not.mp hnone)) (herror e rfl)

/-- Such an answer is welcome. -/
theorem readWelcome_ok (known epoch : CoordinatorEpoch) :
    readWelcome known (welcomed (.ok ()) epoch) = some (epoch % wordSize) := by
  unfold welcomed readWelcome
  rw [if_neg (fun hne => hne rfl)]
  dsimp only
  rw [decode_welcome]
  dsimp only
  rw [if_neg (fun hne => hne rfl), ← toldEpoch_welcome known epoch]
  rfl

theorem not_registered_of_remarks {sequence : Nat} {temperature : Double} {group : List Frame}
    {worker : WorkerId} {boot : WorkerBootId} :
    .registered worker boot epoch ∉ remarks sequence temperature group := by
  intro hmem
  obtain ⟨frame, -, hremark⟩ := List.mem_filterMap.mp hmem
  unfold remark at hremark
  split at hremark
  · have hline := Option.some.inj hremark
    unfold acknowledgement at hline
    split at hline
    · cases hline
    · split at hline <;> cases hline
  · obtain ⟨_, -, hline⟩ := Option.map_eq_some_iff.mp hremark
    cases hline
  · cases hremark

variable {service : Service} {start : Governor} {index : Nat}
  {c : Conversation WorkerLine (Option Nat)}

/-- **A worker that says that it is registered is registered with its device, and knows the epoch
of the coordinator**, in every run. -/
theorem registered_enrolled (h : Conversation.Reaches service start index w.program c)
    (hdecode : Wire.decodeWorkerRegistration {} w.hello.payload = .ok w.registration)
    {worker : WorkerId} {boot : WorkerBootId}
    (hline : .registered worker boot epoch ∈ saids c.log) :
    worker = w.options.workerId ∧ boot = w.options.boot ∧ epoch = start.epoch % wordSize ∧
      Enrols start w.registration c.process.governor := by
  obtain ⟨told, more, out, hworked, hsents, hgots, -⟩ := worked_of_reaches h
  have hsaid : .registered worker boot epoch ∈ saids (c.log ++ more) := by
    rw [saids_append]
    exact List.mem_append_left _ hline
  rcases hworked.lines with hnone | ⟨welcome, groups, hgroups, hread, hlines⟩
  · rw [hnone] at hsaid
    cases hsaid
  rw [hlines] at hsaid
  rcases List.mem_cons.mp hsaid with hregistered | hsaid
  · obtain ⟨rfl, rfl, rfl⟩ := WorkerLine.registered.inj hregistered
    have hfirst : (gots c.log)[0]? = some welcome := by
      rw [← hgots, hgroups]
      rfl
    obtain ⟨frame, hframe, hreads, -⟩ := reads_of_worked h (hsents ▸ hworked.sents) hfirst
    obtain rfl : w.hello = frame := Option.some.inj hframe
    obtain ⟨begun, ended, response, hbegun, houtcome, hended, rfl⟩ :=
      outcome_of_reads_hello (Conversation.sound_of_reaches h).runs hreads rfl
    obtain ⟨status, rfl, htold⟩ := outcome_hello hdecode houtcome
    have herror : ∀ e, status = .error e → e.code ≠ .none := by
      rintro e rfl
      rcases htold with ⟨hok, -⟩ | ⟨e', he, hrefused⟩
      · cases hok
      · obtain rfl := Except.error.inj he
        exact hrefused.code
    obtain ⟨rfl, hepoch⟩ := readWelcome_welcomed herror hread
    rcases htold with ⟨-, henrols⟩ | ⟨e, he, -⟩
    · rw [epoch_of_served hbegun] at hepoch
      exact ⟨rfl, rfl, hepoch, henrols.between hbegun hended⟩
    · cases he
  · obtain ⟨_, _, _, -, -, hremark⟩ := mem_account hsaid
    exact absurd hremark not_registered_of_remarks

/-- A worker with two temperatures, forty degrees and forty-nine. -/
def quietWorker : Worker where
  options := { temperatures := [⟨0x4044000000000000⟩, ⟨0x4048800000000000⟩] }
  steadyClock _ := 0
  systemClock _ := 0

theorem decode_quietWorker :
    Wire.decodeWorkerRegistration {} quietWorker.hello.payload = .ok quietWorker.registration := by
  refine Wire.decodeWith_of_exact (Wire.exact_registration (by decide +kernel))
    ⟨by decide +kernel, by decide, fun device h => ?_⟩
  rw [List.mem_singleton.mp h]
  exact ⟨by decide +kernel, by decide +kernel⟩

theorem alone_quietWorker :
    ((serve quietService quietWorker.hello).alone (Deployment.after [])).2 =
      group (welcomed (.ok ()) 1) := by
  have hstatus : ((Server.register quietWorker.registration).alone (Deployment.after [])).2 =
      .ok () := by
    decide +kernel
  have hepoch : ((Server.register quietWorker.registration).alone
      (Deployment.after [])).1.epoch = 1 := by
    decide +kernel
  exact (alone_hello decode_quietWorker).trans (by rw [hstatus, hepoch])

/-- The worker publishes its records. -/
theorem exists_quietWorker :
    ∃ c, Conversation.Reaches quietService (Deployment.after []) 0 quietWorker.program c ∧
      c.talk = .done (some 2) := by
  obtain ⟨c, -, hreaches, htalk, -, -, -⟩ :=
    exists_run (by decide) alone_quietWorker (readWelcome_ok 1 1)
  exact ⟨c, hreaches, htalk⟩

/-- A worker that is ready was registered. -/
theorem registered_of_ready (h : Conversation.Reaches service start index w.program c) {n : Nat}
    (hready : c.talk = .done (some n)) :
    ∃ epoch, .registered w.options.workerId w.options.boot epoch ∈ saids c.log := by
  obtain ⟨epoch, more, out, hworked, -, -, hdone⟩ := worked_of_reaches h
  obtain ⟨rfl, rfl⟩ := hdone n hready
  rw [List.append_nil] at hworked
  rcases hworked.lines with hnone | ⟨welcome, groups, -, -, hlines⟩
  · exact absurd hnone (hworked.all n rfl).1
  · exact ⟨epoch, by rw [hlines]; exact List.mem_cons_self⟩

/-- The worker with two temperatures was registered. -/
theorem registered_enrolled_worker :
    ∃ (c : Conversation WorkerLine (Option Nat)) (epoch : CoordinatorEpoch),
      .registered 1 1 epoch ∈ saids c.log ∧ epoch = 1 ∧
        Enrols (Deployment.after []) quietWorker.registration c.process.governor := by
  obtain ⟨c, hreaches, hready⟩ := exists_quietWorker
  obtain ⟨epoch, hline⟩ := registered_of_ready hreaches hready
  obtain ⟨-, -, hepoch, henrols⟩ := registered_enrolled hreaches decode_quietWorker hline
  have hone : (Deployment.after []).epoch % wordSize = 1 := by decide +kernel
  exact ⟨c, epoch, hline, hepoch.trans hone, henrols⟩

end Worker

end ThermalGovernor
