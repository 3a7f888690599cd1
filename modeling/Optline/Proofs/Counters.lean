import Mathlib.Algebra.Ring.Nat
import Mathlib.Data.List.Basic
import Mathlib.Order.MinMax
import Mathlib.Tactic.Lemma
import Optline.Proofs.Readings

/-!
# What the usage counters say

Readings of the memory arrive from two sides: a command takes one as it begins and one as it ends, if
there is one to be had, and samples come in at any moment.  In whatever order that happens, the
counters keep what they are named for, and their order: the peak of a command is no higher than that
of the process, and while the command runs the last reading is no higher than its peak.

A report subtracts a reading that was taken early from a peak that is read late.  Both belong to the
same command, so the second is the higher one whatever arrived in between, and the word in which the
difference is taken is wide enough for it.

* `UsageEvent`, `Usage.after` — what can happen to the counters, and fresh counters after that.
* `Usage.Tracks` — the counters against the readings that they have taken in.
* **`tracks_after`** — they track them after any events.
* `Observation.events` — the events of one command.
* `Dispatcher.reportOf` — the report that is made of a run, whether or not its handler succeeds.
* **`counters_in_order`** — the counters, and with them the reports of commands, are in order.
-/

namespace Optline

/-! ## Events -/

/-- What can happen to the counters. -/
inductive UsageEvent where
  /-- A sample arrives. -/
  | sampled (kb : Nat)
  /-- A command begins, perhaps with a reading. -/
  | began (reading : Option Nat)
  /-- A command ends, perhaps with a reading. -/
  | ended (reading : Option Nat)

/-- The reading that comes with an event. -/
def UsageEvent.reading? : UsageEvent → Option Nat
  | .sampled kb => some kb
  | .began reading => reading
  | .ended reading => reading

/-- The events of one run of a handler. -/
def Observation.events (o : Observation) : List UsageEvent :=
  .began o.residentAtBegin
    :: (o.samplesBefore ++ o.samplesDuring ++ o.samplesBetweenPeaks ++ o.samplesBeforeCurrent
        ++ o.samplesAfter).map .sampled
    ++ [.ended o.residentAtEnd]

namespace Usage

/-- The counters after an event. -/
def takeIn (u : Usage) : UsageEvent → Usage
  | .sampled kb => u.record kb
  | .began reading => u.beginCommand reading
  | .ended reading => u.endCommand reading

/-- Fresh counters after events. -/
def after (events : List UsageEvent) : Usage :=
  events.foldl takeIn {}

/-- The readings that come with events. -/
def readings (events : List UsageEvent) : List Nat :=
  events.filterMap UsageEvent.reading?

/-! ## Counters and readings -/

/-- Whether the counters are what the readings so far make them. -/
structure Tracks (u : Usage) (kbs : List Nat) : Prop where
  current : u.current = kbs.getLast?.getD 0
  processPeak : u.processPeak = kbs.foldl max 0
  commandPeak_le : u.commandPeak ≤ u.processPeak
  current_le : u.inFlight = true → u.current ≤ u.commandPeak

namespace Tracks

variable {u : Usage} {kbs : List Nat}

lemma fresh : Tracks {} [] :=
  ⟨rfl, rfl, le_rfl, fun _ => le_rfl⟩

lemma current_le_processPeak (h : u.Tracks kbs) : u.current ≤ u.processPeak := by
  rw [h.current, h.processPeak]
  rcases List.eq_nil_or_concat' kbs with rfl | ⟨kbs, kb, rfl⟩
  · exact le_rfl
  · simp [List.foldl_append]

lemma record (h : u.Tracks kbs) (kb : Nat) : (u.record kb).Tracks (kbs ++ [kb]) := by
  refine ⟨by simp [Usage.record], by simp [Usage.record, h.processPeak, List.foldl_append], ?_, ?_⟩
  · simp only [Usage.record]
    split_ifs
    · exact max_le_max_right kb h.commandPeak_le
    · exact h.commandPeak_le.trans (le_max_left _ _)
  · intro hflight
    have hflight : u.inFlight = true := hflight
    simp only [Usage.record, hflight, if_true]
    exact le_max_right _ _

lemma recordIfAny (h : u.Tracks kbs) (reading : Option Nat) :
    (u.recordIfAny reading).Tracks (kbs ++ reading.toList) := by
  cases reading with
  | none => simpa [Usage.recordIfAny] using h
  | some kb => exact h.record kb

lemma beginCommand (h : u.Tracks kbs) (reading : Option Nat) :
    (u.beginCommand reading).Tracks (kbs ++ reading.toList) := by
  have hread := h.recordIfAny reading
  exact ⟨hread.current, hread.processPeak, hread.current_le_processPeak, fun _ => le_rfl⟩

lemma endCommand (h : u.Tracks kbs) (reading : Option Nat) :
    (u.endCommand reading).Tracks (kbs ++ reading.toList) := by
  have hread := h.recordIfAny reading
  exact ⟨hread.current, hread.processPeak, hread.commandPeak_le, fun hflight => absurd hflight
    (by simp [Usage.endCommand])⟩

/-- What one event preserves. -/
theorem takeIn (h : u.Tracks kbs) (event : UsageEvent) :
    (u.takeIn event).Tracks (kbs ++ event.reading?.toList) := by
  cases event with
  | sampled kb => exact h.record kb
  | began reading => exact h.beginCommand reading
  | ended reading => exact h.endCommand reading

/-- What any number of events preserves. -/
theorem foldl_takeIn (h : u.Tracks kbs) (events : List UsageEvent) :
    (events.foldl Usage.takeIn u).Tracks (kbs ++ readings events) := by
  induction events generalizing u kbs with
  | nil => simpa [readings] using h
  | cons event events ih =>
      have hrest := ih (h.takeIn event)
      rw [List.append_assoc] at hrest
      have hreadings : readings (event :: events)
          = event.reading?.toList ++ readings events := by
        cases hreading : event.reading? <;> simp [readings, hreading]
      rwa [hreadings]

/-- No counter is above a bound of the readings. -/
lemma processPeak_lt (h : u.Tracks kbs) {bound : Nat} (hpos : 0 < bound)
    (hkbs : ∀ kb ∈ kbs, kb < bound) : u.processPeak < bound := by
  rw [h.processPeak]
  exact List.foldlRecOn (motive := (· < bound)) kbs max hpos
    fun peak hpeak kb hkb => max_lt hpeak (hkbs kb hkb)

end Tracks

/-- **The counters track their readings**, whatever happens to them in whatever order. -/
theorem tracks_after (events : List UsageEvent) : (after events).Tracks (readings events) :=
  Tracks.fresh.foldl_takeIn events

/-! ## Samples during a command -/

variable {u : Usage}

lemma recordAll_eq_foldl (u : Usage) (kbs : List Nat) :
    u.recordAll kbs = (kbs.map UsageEvent.sampled).foldl takeIn u := by
  rw [recordAll, List.foldl_map]
  rfl

@[simp] lemma inFlight_recordAll (u : Usage) (kbs : List Nat) :
    (u.recordAll kbs).inFlight = u.inFlight := by
  induction kbs generalizing u with
  | nil => rfl
  | cons kb kbs ih => exact ih (u.record kb)

lemma commandPeak_le_recordAll (u : Usage) (kbs : List Nat) :
    u.commandPeak ≤ (u.recordAll kbs).commandPeak := by
  induction kbs generalizing u with
  | nil => exact le_rfl
  | cons kb kbs ih =>
      refine le_trans ?_ (ih (u.record kb))
      simp only [record]
      split_ifs
      · exact le_max_left _ _
      · exact le_rfl

lemma processPeak_le_recordAll (u : Usage) (kbs : List Nat) :
    u.processPeak ≤ (u.recordAll kbs).processPeak := by
  induction kbs generalizing u with
  | nil => exact le_rfl
  | cons kb kbs ih => exact le_trans (le_max_left _ _) (ih (u.record kb))

lemma processPeak_le_recordIfAny (u : Usage) (reading : Option Nat) :
    u.processPeak ≤ (u.recordIfAny reading).processPeak := by
  cases reading with
  | none => exact le_rfl
  | some kb => exact le_max_left _ _

end Usage

/-! ## Measurements -/

/-- To measure a command is to take its events in. -/
lemma measure_snd (o : Observation) (u : Usage) (pause : Nat) :
    (o.measure u pause).2 = o.events.foldl Usage.takeIn u := by
  simp only [Observation.measure, Observation.events, Usage.recordAll_eq_foldl, List.map_append,
    List.foldl_append, List.foldl_cons, List.foldl_nil]
  rfl

/-- Whether the readings of a measurement are in the order that a report relies on. -/
structure Measurement.InOrder (m : Measurement) : Prop where
  before_le_peak : m.memoryBefore ≤ m.commandPeak
  peak_le_process : m.commandPeak ≤ m.processPeak

/-- The memory before a command counts for its peak, whatever samples arrive in between. -/
lemma inOrder_measure {u : Usage} {kbs : List Nat} (h : u.Tracks kbs) (o : Observation)
    (pause : Nat) : (o.measure u pause).1.InOrder := by
  have hbegin := h.beginCommand o.residentAtBegin
  have hstart := hbegin.foldl_takeIn (o.samplesBefore.map .sampled)
  rw [← Usage.recordAll_eq_foldl] at hstart
  have hpeak := hstart.foldl_takeIn (o.samplesDuring.map .sampled)
  rw [← Usage.recordAll_eq_foldl] at hpeak
  constructor
  · exact (hstart.current_le (by rw [Usage.inFlight_recordAll]; rfl)).trans
      (Usage.commandPeak_le_recordAll _ _)
  · exact hpeak.commandPeak_le.trans (Usage.processPeak_le_recordAll _ _)

/-- No peak of a measurement is above a bound of the readings so far. -/
lemma processPeak_measure_lt {u : Usage} {kbs : List Nat} (h : u.Tracks kbs) (o : Observation)
    (pause : Nat) {bound : Nat} (hpos : 0 < bound)
    (hbound : ∀ kb ∈ kbs ++ Usage.readings o.events, kb < bound) :
    (o.measure u pause).1.processPeak < bound := by
  have hlater : (o.measure u pause).1.processPeak ≤ (o.measure u pause).2.processPeak :=
    calc
      _ ≤ _ := Usage.processPeak_le_recordAll _ o.samplesBeforeCurrent
      _ ≤ _ := Usage.processPeak_le_recordAll _ o.samplesAfter
      _ ≤ _ := Usage.processPeak_le_recordIfAny _ o.residentAtEnd
  rw [measure_snd] at hlater
  exact hlater.trans_lt ((h.foldl_takeIn o.events).processPeak_lt hpos hbound)

/-- A difference of readings below `2 ^ 54` fits its word; a peak of `2 ^ 63` would not. -/
lemma usedMebibytes_of_le {peak before : Nat} (h : before ≤ peak) (hpeak : peak < 2 ^ 54) :
    usedMebibytes peak before = ((peak - before) / 1024 : Nat) := by
  have hword : ((peak : Int) - before).bmod Decimal.wordCount = (peak - before : Nat) := by
    rw [Int.ofNat_sub h]
    exact Int.bmod_eq_of_le (by simp [Decimal.wordCount]; omega) (by simp [Decimal.wordCount]; omega)
  rw [usedMebibytes, hword]
  rfl

lemma report?_eq_some {p : Profiler} {command : String} {m : Measurement} {r : Report}
    (h : p.report? command m = some r) :
    r.usedMb = usedMebibytes m.commandPeak m.memoryBefore ∧ r.peakMb = mebibytes m.processPeak := by
  unfold Profiler.report? at h
  split_ifs at h
  obtain rfl := Option.some.inj h
  exact ⟨rfl, rfl⟩

/-- The memory that a report calls used is no less than nothing and no more than its peak. -/
lemma Measurement.InOrder.usedMb_le {p : Profiler} {command : String} {m : Measurement} {r : Report}
    (h : m.InOrder) (hpeak : m.processPeak < 2 ^ 54) (hr : p.report? command m = some r) :
    0 ≤ r.usedMb ∧ r.usedMb ≤ r.peakMb := by
  obtain ⟨hused, hpeakMb⟩ := report?_eq_some hr
  have hcommand := h.peak_le_process
  rw [hused, hpeakMb, usedMebibytes_of_le h.before_le_peak (by omega), mebibytes]
  omega

/-! ## Invocations -/

namespace Dispatcher

variable {d : Dispatcher} {e : Entry Handler} {tokens : List String}

/-- The report that is made of a run of a handler.  It is made before it is known whether the handler
succeeds, so a run that fails has one too, which no answer carries. -/
def reportOf (d : Dispatcher) (e : Entry Handler) (tokens : List String) : Option Report :=
  Profiler.report? ⟨d.settings.profile, d.settings.noiseFloor⟩ (tokens.headD "")
    ((d.observe d.runs).measure d.usage (d.replyTo e tokens).pause).1

lemma result_run (d : Dispatcher) (e : Entry Handler) (tokens : List String) :
    (d.run e tokens).result = match (d.replyTo e tokens).result with
      | .ok output => .ok (.completed (tokens.headD "") output (d.reportOf e tokens))
      | .error fault => .error (.failed tokens fault) :=
  rfl

lemma report?_eq_none {answer : Dispatch}
    (h : ∀ command output report, answer ≠ .completed command output report) :
    answer.report? = none := by
  cases answer with
  | completed command output report => exact absurd rfl (h command output report)
  | help command text => rfl
  | rejected command outcome message below => rfl

/-- An answer carries the report of its run. -/
lemma report?_of_run {answer : Dispatch} (h : (d.run e tokens).result = .ok answer) :
    answer.report? = d.reportOf e tokens := by
  rw [result_run] at h
  cases hreply : (d.replyTo e tokens).result with
  | error fault => simp [hreply] at h
  | ok output =>
      rw [hreply] at h
      rw [← Except.ok.inj h]
      rfl

/-- A report made with counters that track their readings is in order. -/
lemma usedMb_le_of_reportOf {kbs : List Nat} {report : Report} (hd : d.usage.Tracks kbs)
    (hbound : ∀ kb ∈ kbs ++ Usage.readings (d.observe d.runs).events, kb < 2 ^ 54)
    (hreport : d.reportOf e tokens = some report) :
    0 ≤ report.usedMb ∧ report.usedMb ≤ report.peakMb := by
  have horder := inOrder_measure hd (d.observe d.runs) (d.replyTo e tokens).pause
  have hpeak := processPeak_measure_lt hd _ (d.replyTo e tokens).pause (by decide) hbound
  exact horder.usedMb_le hpeak hreport

/-- **The counters are in order, and so are the reports.**  After any operations on fresh counters
the current value is the last reading, and the peak of the process the highest one of all; the peak of
a command is no higher than that, and no lower than the current value while the command runs.  A
command that is executed with such counters adds operations of the same kind, wherever samples fall
between them.  Every report that is made then, of whichever handler, puts the memory used between
nothing and the peak, be it that the handler fails; and so does the report that an answer carries. -/
theorem counters_in_order {events : List UsageEvent}
    (h : ∀ kb ∈ Usage.readings events, kb < 2 ^ 54) :
    ((Usage.after events).current = (Usage.readings events).getLast?.getD 0
        ∧ (Usage.after events).processPeak = (Usage.readings events).foldl max 0
        ∧ (Usage.after events).commandPeak ≤ (Usage.after events).processPeak
        ∧ ((Usage.after events).inFlight = true →
          (Usage.after events).current ≤ (Usage.after events).commandPeak))
      ∧ ∀ d : Dispatcher, d.usage = Usage.after events →
        (∀ kb ∈ Usage.readings (d.observe d.runs).events, kb < 2 ^ 54) → ∀ tokens,
          ((d.execute tokens).dispatcher.usage = Usage.after events
            ∨ (d.execute tokens).dispatcher.usage
              = Usage.after (events ++ (d.observe d.runs).events))
          ∧ (∀ e report, d.reportOf e tokens = some report →
            0 ≤ report.usedMb ∧ report.usedMb ≤ report.peakMb)
          ∧ ∀ answer report, (d.execute tokens).result = .ok answer →
            answer.report? = some report → 0 ≤ report.usedMb ∧ report.usedMb ≤ report.peakMb := by
  have htracks := Usage.tracks_after events
  refine ⟨⟨htracks.current, htracks.processPeak, htracks.commandPeak_le, htracks.current_le⟩,
    fun d hd hobserved tokens => ?_⟩
  have hbound : ∀ kb ∈ Usage.readings events ++ Usage.readings (d.observe d.runs).events,
      kb < 2 ^ 54 := by
    intro kb hkb
    exact (List.mem_append.mp hkb).elim (h kb) (hobserved kb)
  have hmade : ∀ e report, d.reportOf e tokens = some report →
      0 ≤ report.usedMb ∧ report.usedMb ≤ report.peakMb :=
    fun e report => usedMb_le_of_reportOf (hd ▸ htracks) hbound
  rcases run_or_stay d.registry tokens with ⟨_, _, e, -, -, hruns⟩ | ⟨result, notices, hnone, hstays⟩
  · rw [hruns d rfl]
    refine ⟨Or.inr ?_, hmade, fun answer report hanswer hreport => ?_⟩
    · simp only [run, measure_snd, hd, Usage.after, List.foldl_append]
    · exact hmade e report (report?_of_run hanswer ▸ hreport)
  · rw [hstays d rfl]
    refine ⟨Or.inl hd, hmade, fun answer report hanswer hreport => ?_⟩
    obtain rfl : result = .ok answer := hanswer
    rw [report?_eq_none fun command output report => mt (congrArg Except.ok) (hnone _ _ _)] at hreport
    exact absurd hreport (by simp)

/-- A command that begins without a reading of its own, so that its peak starts from the last one of
the command before, and samples between all the readings that its report takes.  One whose handler
fails is measured alike, and its report has no answer to be carried by. -/
theorem counters_in_order_interleaved :
    let events : List UsageEvent :=
      [.sampled 4096, .began none, .sampled 9000, .ended (some 2048)]
    let o : Observation :=
      { samplesBefore := [3000], samplesDuring := [8000, 1000], samplesBetweenPeaks := [20000],
        samplesBeforeCurrent := [700], residentAtEnd := some 500 }
    let d : Dispatcher :=
      { registry := builtinRegistry, settings := { noiseFloor := 0 }, usage := Usage.after events,
        observe := fun _ => o }
    (∀ kb ∈ Usage.readings events, kb < 2 ^ 54) ∧ (∀ kb ∈ Usage.readings o.events, kb < 2 ^ 54)
      ∧ (Usage.after events).current = 2048 ∧ (Usage.after events).processPeak = 9000
      ∧ ∃ answer report, (d.execute ["echo"]).result = .ok answer ∧ answer.report? = some report
        ∧ (report.usedMb, report.peakMb) = (4, 19)
        ∧ 0 ≤ report.usedMb ∧ report.usedMb ≤ report.peakMb
        ∧ ∃ e made, d.registry.lookup? "sum" = some e
          ∧ (d.execute ["sum", "one", "2"]).result.toOption.isNone
          ∧ d.reportOf e ["sum", "one", "2"] = some made
          ∧ (made.usedMb, made.peakMb) = (4, 19)
          ∧ 0 ≤ made.usedMb ∧ made.usedMb ≤ made.peakMb := by
  intro events o d
  have hevents : ∀ kb ∈ Usage.readings events, kb < 2 ^ 54 := by decide +kernel
  have hobserved : ∀ kb ∈ Usage.readings o.events, kb < 2 ^ 54 := by decide +kernel
  obtain ⟨⟨hcurrent, hpeak, -, -⟩, hreports⟩ := counters_in_order hevents
  obtain ⟨-, -, hbetween⟩ := hreports d rfl hobserved ["echo"]
  have hreported : ((d.execute ["echo"]).result.toOption.bind Dispatch.report?).map
      (fun report => (report.usedMb, report.peakMb)) = some (4, 19) := by decide +kernel
  obtain ⟨report, hreport, hmemory⟩ := Option.map_eq_some_iff.mp hreported
  obtain ⟨answer, hanswer, hreport⟩ := Option.bind_eq_some_iff.mp hreport
  have hresult : (d.execute ["echo"]).result = .ok answer := by
    cases hresult : (d.execute ["echo"]).result with
    | error e => simp [hresult, Except.toOption] at hanswer
    | ok first => simpa [hresult, Except.toOption] using hanswer
  obtain ⟨-, hmade, -⟩ := hreports d rfl hobserved ["sum", "one", "2"]
  have hfails : (d.execute ["sum", "one", "2"]).result.toOption.isNone := by decide +kernel
  have hfailed : ((d.registry.lookup? "sum").bind (d.reportOf · ["sum", "one", "2"])).map
      (fun made => (made.usedMb, made.peakMb)) = some (4, 19) := by decide +kernel
  obtain ⟨made, hfailed, hmadeMemory⟩ := Option.map_eq_some_iff.mp hfailed
  obtain ⟨e, he, hfailed⟩ := Option.bind_eq_some_iff.mp hfailed
  obtain ⟨hnonneg, hle⟩ := hbetween answer report hresult hreport
  exact ⟨hevents, hobserved, hcurrent, hpeak, answer, report, hresult, hreport, hmemory, hnonneg, hle,
    e, made, he, hfails, hfailed, hmadeMemory, hmade e made hfailed⟩

end Dispatcher

end Optline
