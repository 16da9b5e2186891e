import TcpCanUds.Lib.Machine
import Mathlib.Data.Rat.Defs
import Mathlib.Tactic.SplitIfs

/-!
# StressTestPlot — the chart and the data file of a stress test (`stress_test_plot.cpp`)

`updateChartData` puts a sample into a buffer and a row into the data file; `onPlotTimer` moves the buffer
into the two curves, which keep the latest `maxPoints` points.  A `qreal` is exact here.

* `chart_after` — what the chart shows after any run;
* `rows_numbered_iff` — when the rows of the data file are numbered one after the other.
-/

namespace TcpCanUds
namespace Client

open Lib

/-! ## State -/

structure DataPoint where
  busload : ℚ
  packetlossRate : ℚ
  deriving DecidableEq, Repr

structure PlotPoint where
  x : Nat
  y : ℚ
  deriving DecidableEq, Repr

/-- A row of the data file. -/
structure DataRow where
  number : Nat
  busLoad : ℚ
  packetLossRate : ℚ
  deriving DecidableEq, Repr

structure StressTestPlot where
  m_timeCounter : Nat := 0
  m_buffer : List DataPoint := []
  m_busLoadSeries : List PlotPoint := []
  m_packetLossSeries : List PlotPoint := []
  /-- the range of `m_axisX` -/
  m_axisX : Nat × Nat := (0, 120)
  /-- where the two threshold lines end -/
  maxX : Nat := 10
  /-- the numbers that the two labels show, none yet at first -/
  m_valueLoad : Option ℚ := none
  m_valueLoss : Option ℚ := none
  /-- `m_plotTimer` runs -/
  m_plotTimer : Bool := true
  /-- `m_dataFile.isOpen()` -/
  isOpen : Bool
  /-- the rows written to `m_dataStream`, below its header -/
  rows : List DataRow := []
  deriving DecidableEq, Repr

namespace StressTestPlot

/-- `maxPoints` -/
abbrev maxPoints : Nat := 300

/-! ## Slots -/

def saveDataPoint (s : StressTestPlot) (busLoad packetLossRate : ℚ) : StressTestPlot :=
  if s.isOpen then { s with rows := s.rows ++ [⟨s.m_timeCounter, busLoad, packetLossRate⟩] } else s

def updateChartData (s : StressTestPlot) (busLoad packetLossRate : ℚ) : StressTestPlot :=
  saveDataPoint { s with m_buffer := s.m_buffer ++ [⟨busLoad, packetLossRate⟩] } busLoad packetLossRate

/-- The loop of `onPlotTimer` over the buffer: the points of both curves and the next `m_timeCounter`. -/
def plotPoints : Nat → List DataPoint → List PlotPoint × List PlotPoint × Nat
  | m_timeCounter, [] => ([], [], m_timeCounter)
  | m_timeCounter, pt :: m_buffer =>
      let rest := plotPoints (m_timeCounter + 1) m_buffer
      (⟨m_timeCounter, pt.busload⟩ :: rest.1, ⟨m_timeCounter, pt.packetlossRate⟩ :: rest.2.1, rest.2.2)

/-- The `while` loop of `onPlotTimer`; the first curve decides for both. -/
def removeOld : List PlotPoint → List PlotPoint → List PlotPoint × List PlotPoint
  | [], packetLoss => ([], packetLoss)
  | pt :: busLoad, packetLoss =>
      if maxPoints < (pt :: busLoad).length then removeOld busLoad packetLoss.tail
      else (pt :: busLoad, packetLoss)

/-- The text of a label: that of the last point, and the old one without any. -/
def lastValue (series : List PlotPoint) (old : Option ℚ) : Option ℚ :=
  match series.getLast? with
  | none => old
  | some pt => some pt.y

def onPlotTimer (s : StressTestPlot) : StressTestPlot :=
  if s.m_buffer = [] then s
  else
    let points := plotPoints s.m_timeCounter s.m_buffer
    let series := removeOld (s.m_busLoadSeries ++ points.1) (s.m_packetLossSeries ++ points.2.1)
    let axis :=
      if maxPoints < points.2.2 then (points.2.2 - maxPoints, points.2.2) else (0, maxPoints)
    { s with
      m_timeCounter := points.2.2
      m_buffer := []
      m_busLoadSeries := series.1
      m_packetLossSeries := series.2
      m_axisX := axis
      maxX := axis.2
      m_valueLoad := lastValue series.1 s.m_valueLoad
      m_valueLoss := lastValue series.2 s.m_valueLoss }

/-- The chart is not drawn any more; samples still come. -/
def on_close_btn_clicked (s : StressTestPlot) : StressTestPlot :=
  { s with m_plotTimer := false }

end StressTestPlot

inductive PlotEvent where
  | updateChartData (busLoad packetLossRate : ℚ)
  | plotTimer
  | closed
  deriving DecidableEq, Repr

namespace StressTestPlot

def step (s : StressTestPlot) : PlotEvent → StressTestPlot
  | .updateChartData busLoad packetLossRate => s.updateChartData busLoad packetLossRate
  | .plotTimer => if s.m_plotTimer then s.onPlotTimer else s
  | .closed => s.on_close_btn_clicked

/-- The window; `isOpen` says whether its data file could be opened. -/
def machine (isOpen : Bool) : Machine StressTestPlot PlotEvent Unit where
  init := { isOpen }
  step s e := (s.step e, ())

/-! ## The curves -/

/-- The samples of a run, oldest first. -/
def samples (run : List PlotEvent) : List DataPoint :=
  run.filterMap fun
    | .updateChartData busLoad packetLossRate => some ⟨busLoad, packetLossRate⟩
    | .plotTimer | .closed => none

/-- The curve of some samples, numbered from `n` on. -/
def curve (value : DataPoint → ℚ) (n : Nat) (pts : List DataPoint) : List PlotPoint :=
  (pts.zipIdx n).map fun pt => ⟨pt.2, value pt.1⟩

/-- The latest points of a curve. -/
def latest (series : List PlotPoint) : List PlotPoint :=
  series.drop (series.length - maxPoints)

section

variable {value : DataPoint → ℚ} {pts more : List DataPoint} {n : Nat}

@[simp] theorem length_curve : (curve value n pts).length = pts.length := by
  rw [curve, List.length_map, List.length_zipIdx]

theorem curve_append :
    curve value n (pts ++ more) = curve value n pts ++ curve value (n + pts.length) more := by
  rw [curve, List.zipIdx_append, List.map_append]
  rfl

theorem plotPoints_eq (n : Nat) (pts : List DataPoint) :
    plotPoints n pts =
      (curve DataPoint.busload n pts, curve DataPoint.packetlossRate n pts, n + pts.length) := by
  induction pts generalizing n with
  | nil => rfl
  | cons pt pts ih =>
      rw [plotPoints, ih, List.length_cons, Nat.add_right_comm, Nat.add_assoc]
      rfl

/-- The curves lose their first points together. -/
theorem removeOld_eq (busLoad packetLoss : List PlotPoint) (h : packetLoss.length = busLoad.length) :
    removeOld busLoad packetLoss = (latest busLoad, latest packetLoss) := by
  induction busLoad generalizing packetLoss with
  | nil =>
      rw [List.eq_nil_of_length_eq_zero h]
      rfl
  | cons pt busLoad ih =>
      cases packetLoss with
      | nil => cases h
      | cons pt' packetLoss =>
          have hlength : packetLoss.length = busLoad.length := Nat.succ.inj h
          rw [removeOld]
          split_ifs with hmore
          · have hdrop : ∀ (p : PlotPoint) (rest : List PlotPoint), rest.length = busLoad.length →
                latest (p :: rest) = latest rest := by
              intro p rest hrest
              have hsub : (p :: rest).length - maxPoints = rest.length - maxPoints + 1 := by
                rw [List.length_cons] at hmore ⊢
                omega
              rw [latest, hsub, List.drop_succ_cons]
              rfl
            rw [List.tail_cons, ih packetLoss hlength, hdrop pt busLoad rfl, hdrop pt' packetLoss hlength]
          · have hall : (pt :: busLoad).length - maxPoints = 0 := by omega
            rw [latest, latest, h, hall, List.drop_zero, List.drop_zero]

/-- Points that are removed early are removed late as well. -/
theorem latest_append (series more : List PlotPoint) :
    latest (latest series ++ more) = latest (series ++ more) := by
  let gone := series.length - maxPoints
  have happend : latest series ++ more = (series ++ more).drop gone :=
    (List.drop_append_of_le_length (Nat.sub_le _ _)).symm
  have hcount : gone + ((series ++ more).length - gone - maxPoints) =
      (series ++ more).length - maxPoints := by
    rw [List.length_append]
    omega
  rw [happend, latest, List.length_drop, List.drop_drop, hcount]
  rfl

/-- The latest points are those of the latest samples, under their own numbers. -/
theorem latest_curve (value : DataPoint → ℚ) (pts : List DataPoint) :
    latest (curve value 0 pts) =
      curve value (pts.length - maxPoints) (pts.drop (pts.length - maxPoints)) := by
  let gone := pts.length - maxPoints
  have hgone : (pts.take gone).length = gone := by
    rw [List.length_take]
    exact Nat.min_eq_left (Nat.sub_le _ _)
  have hsplit : curve value 0 pts = curve value 0 (pts.take gone) ++ curve value gone (pts.drop gone) := by
    calc
      curve value 0 pts = curve value 0 (pts.take gone ++ pts.drop gone) := by
        rw [List.take_append_drop]
      _ = curve value 0 (pts.take gone) ++ curve value gone (pts.drop gone) := by
        rw [curve_append, hgone, Nat.zero_add]
  rw [latest, length_curve, hsplit]
  exact List.drop_left' (length_curve.trans hgone)

theorem mem_latest_curve {p : PlotPoint} (h : p ∈ latest (curve value 0 pts)) :
    pts.length - maxPoints ≤ p.x ∧ p.x < pts.length := by
  rw [latest_curve, curve, List.mem_map] at h
  rcases h with ⟨⟨pt, i⟩, hmem, rfl⟩
  have hbounds := List.mem_zipIdx hmem
  rw [List.length_drop] at hbounds
  have hlt : i < pts.length := by
    have hupper := hbounds.2.1
    omega
  exact ⟨hbounds.1, hlt⟩

theorem lastValue_latest_curve {old : Option ℚ} (h : pts ≠ []) :
    lastValue (latest (curve value 0 pts)) old = pts.getLast?.map value := by
  rcases List.eq_nil_or_concat pts with rfl | ⟨front, pt, hpts⟩
  · exact absurd rfl h
  · rw [List.concat_eq_append] at hpts
    subst hpts
    let p : PlotPoint := ⟨front.length, value pt⟩
    have hcurve : curve value 0 (front ++ [pt]) = curve value 0 front ++ [p] := by
      rw [curve_append, Nat.zero_add]
      rfl
    have hlast : (latest (curve value 0 (front ++ [pt]))).getLast? = some p := by
      have hlength : (curve value 0 front ++ [p]).length - maxPoints ≤ (curve value 0 front).length := by
        rw [List.length_append, List.length_singleton]
        exact Nat.le_trans (Nat.sub_le_sub_left (by decide) _) (Nat.le_of_eq (Nat.add_sub_cancel _ 1))
      rw [latest, hcurve, List.drop_append_of_le_length hlength, List.getLast?_append]
      rfl
    rw [lastValue, hlast, List.getLast?_append]
    rfl

/-! ## The chart after a run -/

/-- What the chart shows when the samples `pts` have gone into it. -/
structure Shows (s : StressTestPlot) (pts : List DataPoint) : Prop where
  counter : s.m_timeCounter = pts.length
  busLoad : s.m_busLoadSeries = latest (curve DataPoint.busload 0 pts)
  packetLoss : s.m_packetLossSeries = latest (curve DataPoint.packetlossRate 0 pts)
  axis : pts ≠ [] → s.m_axisX = (pts.length - maxPoints, max pts.length maxPoints) ∧ s.maxX = s.m_axisX.2
  valueLoad : s.m_valueLoad = pts.getLast?.map DataPoint.busload
  valueLoss : s.m_valueLoss = pts.getLast?.map DataPoint.packetlossRate

/-- The whole buffer goes into the chart. -/
theorem Shows.onPlotTimer {s : StressTestPlot} (h : Shows s pts) :
    s.onPlotTimer.m_buffer = [] ∧ Shows s.onPlotTimer (pts ++ s.m_buffer) := by
  by_cases hbuffer : s.m_buffer = []
  · rw [StressTestPlot.onPlotTimer, if_pos hbuffer, hbuffer, List.append_nil]
    exact ⟨rfl, h⟩
  · have hnext : pts ++ s.m_buffer ≠ [] := fun hnil => hbuffer (List.append_eq_nil_iff.1 hnil).2
    have hcurve : ∀ value : DataPoint → ℚ,
        latest (latest (curve value 0 pts) ++ curve value pts.length s.m_buffer) =
          latest (curve value 0 (pts ++ s.m_buffer)) := by
      intro value
      rw [latest_append, curve_append, Nat.zero_add]
    have hlength : (s.m_packetLossSeries ++ curve DataPoint.packetlossRate pts.length s.m_buffer).length =
        (s.m_busLoadSeries ++ curve DataPoint.busload pts.length s.m_buffer).length := by
      rw [h.busLoad, h.packetLoss, latest_curve, latest_curve, List.length_append, List.length_append,
        length_curve, length_curve, length_curve, length_curve]
    rw [StressTestPlot.onPlotTimer, if_neg hbuffer, plotPoints_eq, h.counter]
    simp only
    rw [removeOld_eq _ _ hlength, h.busLoad, h.packetLoss, hcurve, hcurve]
    refine ⟨trivial, ?_, ?_, ?_, fun _ => ?_, ?_, ?_⟩
    all_goals simp only
    · exact List.length_append.symm
    · rw [List.length_append]
      refine ⟨?_, trivial⟩
      split_ifs with hmore
      · rw [Nat.max_eq_left (Nat.le_of_lt hmore)]
      · rw [Nat.max_eq_right (Nat.le_of_not_lt hmore), Nat.sub_eq_zero_of_le (Nat.le_of_not_lt hmore)]
    · exact lastValue_latest_curve hnext
    · exact lastValue_latest_curve hnext

end

theorem samples_snoc (run : List PlotEvent) (e : PlotEvent) :
    samples (run ++ [e]) = samples run ++ samples [e] :=
  List.filterMap_append

/-- A sample goes into the buffer and, if there is one, into the data file. -/
theorem updateChartData_eq (s : StressTestPlot) (busLoad packetLossRate : ℚ) :
    s.updateChartData busLoad packetLossRate =
      { s with
        m_buffer := s.m_buffer ++ [⟨busLoad, packetLossRate⟩]
        rows := s.rows ++
          if s.isOpen then [⟨s.m_timeCounter, busLoad, packetLossRate⟩] else [] } := by
  unfold updateChartData saveDataPoint
  simp only
  split_ifs with hopen
  · rfl
  · rw [List.append_nil]

theorem shows_after (isOpen : Bool) (run : List PlotEvent) :
    ∃ pts, samples run = pts ++ ((machine isOpen).after run).m_buffer ∧
      Shows ((machine isOpen).after run) pts := by
  induction run using List.reverseRecOn with
  | nil => exact ⟨[], rfl, rfl, rfl, rfl, fun hne => absurd rfl hne, rfl, rfl⟩
  | append_singleton run e ih =>
      rcases ih with ⟨pts, hsamples, h⟩
      rw [Machine.after_snoc, samples_snoc, hsamples]
      generalize (machine isOpen).after run = s at h
      change ∃ pts', _ = pts' ++ (s.step e).m_buffer ∧ Shows (s.step e) pts'
      cases e with
      | updateChartData busLoad packetLossRate =>
          refine ⟨pts, List.append_assoc _ _ _ |>.trans ?_, ?_⟩
          · rw [step, updateChartData_eq]
            rfl
          · rw [step, updateChartData_eq]
            exact ⟨h.counter, h.busLoad, h.packetLoss, h.axis, h.valueLoad, h.valueLoss⟩
      | plotTimer =>
          rw [step]
          split_ifs with htimer
          · rcases h.onPlotTimer with ⟨hempty, hshows⟩
            refine ⟨pts ++ s.m_buffer, ?_, hshows⟩
            rw [hempty]
            rfl
          · exact ⟨pts, List.append_nil _, h⟩
      | closed =>
          refine ⟨pts, List.append_nil _, ?_⟩
          exact ⟨h.counter, h.busLoad, h.packetLoss, h.axis, h.valueLoad, h.valueLoss⟩

/-- Every sample is in the chart or waits in the buffer, in its order.  Both curves show the latest
`maxPoints` samples of the chart under their own numbers, the axis reaches over all of them, and the labels
show the last one. -/
theorem chart_after (isOpen : Bool) (run : List PlotEvent) :
    let s := (machine isOpen).after run
    ∃ pts, samples run = pts ++ s.m_buffer ∧ Shows s pts ∧
      ∀ p ∈ s.m_busLoadSeries ++ s.m_packetLossSeries, s.m_axisX.1 ≤ p.x ∧ p.x < s.m_axisX.2 := by
  intro s
  rcases shows_after isOpen run with ⟨pts, hsamples, h⟩
  refine ⟨pts, hsamples, h, fun p hp => ?_⟩
  have hbounds : pts.length - maxPoints ≤ p.x ∧ p.x < pts.length := by
    rw [h.busLoad, h.packetLoss] at hp
    rcases List.mem_append.1 hp with hp | hp
    · exact mem_latest_curve hp
    · exact mem_latest_curve hp
  have hne : pts ≠ [] := by
    intro hnil
    rw [hnil] at hbounds
    exact Nat.not_lt_zero _ hbounds.2
  rw [(h.axis hne).1]
  exact ⟨hbounds.1, Nat.lt_of_lt_of_le hbounds.2 (Nat.le_max_left _ _)⟩

/-! ## The data file -/

/-- What a row tells. -/
def sampleOf (row : DataRow) : DataPoint :=
  ⟨row.busLoad, row.packetLossRate⟩

/-- A sample comes when the last one is already in the chart. -/
def Plotted (s : StressTestPlot) : PlotEvent → Prop
  | .updateChartData _ _ => s.m_buffer = []
  | .plotTimer | .closed => True

instance (s : StressTestPlot) (e : PlotEvent) : Decidable (Plotted s e) :=
  match e with
  | .updateChartData _ _ => inferInstanceAs (Decidable (s.m_buffer = []))
  | .plotTimer | .closed => isTrue trivial

theorem rows_step (s : StressTestPlot) {e : PlotEvent} (he : samples [e] = []) :
    (s.step e).rows = s.rows ∧ (s.step e).isOpen = s.isOpen := by
  cases e with
  | updateChartData busLoad packetLossRate => cases he
  | plotTimer =>
      rw [step]
      split_ifs with htimer
      · unfold onPlotTimer
        split_ifs with hbuffer <;> exact ⟨rfl, rfl⟩
      · exact ⟨rfl, rfl⟩
  | closed => exact ⟨rfl, rfl⟩

theorem rows_after (run : List PlotEvent) :
    ((machine true).after run).isOpen = true ∧
      ((machine true).after run).rows.map sampleOf = samples run := by
  induction run using List.reverseRecOn with
  | nil => exact ⟨rfl, rfl⟩
  | append_singleton run e ih =>
      rcases ih with ⟨hopen, hrows⟩
      rw [Machine.after_snoc, samples_snoc, ← hrows]
      generalize (machine true).after run = s at hopen
      change (s.step e).isOpen = true ∧ (s.step e).rows.map sampleOf = _
      have hother : samples [e] = [] → (s.step e).isOpen = true ∧
          (s.step e).rows.map sampleOf = s.rows.map sampleOf ++ samples [e] := by
        intro he
        rcases rows_step s he with ⟨hsame, hopen'⟩
        rw [hsame, he, List.append_nil]
        exact ⟨hopen'.trans hopen, rfl⟩
      cases e with
      | updateChartData busLoad packetLossRate =>
          rw [step, updateChartData_eq]
          refine ⟨hopen, ?_⟩
          simp only [hopen, if_true, List.map_append]
          rfl
      | plotTimer => exact hother rfl
      | closed => exact hother rfl

/-- Every sample is written to the data file once and in its order.  Its rows are numbered one after the
other if and only if every sample came after the last one had gone into the chart: a row carries the
number of the samples in the chart, not that of the rows. -/
theorem rows_numbered_iff (run : List PlotEvent) :
    let s := (machine true).after run
    s.rows.map sampleOf = samples run ∧
      (s.rows.map DataRow.number = List.range s.rows.length ↔
        (machine true).Along Plotted (machine true).init run) := by
  refine ⟨(rows_after run).2, ?_⟩
  induction run using List.reverseRecOn with
  | nil => exact ⟨fun _ => trivial, fun _ => rfl⟩
  | append_singleton run e ih =>
      have hopen := (rows_after run).1
      have hlength := congrArg List.length (rows_after run).2
      rcases shows_after true run with ⟨pts, hsamples, h⟩
      rw [List.length_map, hsamples, List.length_append, ← h.counter] at hlength
      rw [Machine.along_snoc, ← ih, Machine.after_snoc]
      change _ ↔ _ ∧ Plotted ((machine true).after run) e
      generalize (machine true).after run = s at hopen hlength
      change (s.step e).rows.map DataRow.number = List.range (s.step e).rows.length ↔ _
      have hother : samples [e] = [] →
          ((s.step e).rows.map DataRow.number = List.range (s.step e).rows.length ↔
            s.rows.map DataRow.number = List.range s.rows.length ∧ True) := by
        intro he
        rw [(rows_step s he).1, and_true]
      cases e with
      | updateChartData busLoad packetLossRate =>
          rw [step, updateChartData_eq]
          simp only [hopen, if_true]
          rw [List.map_append, List.length_append, List.length_singleton, List.range_succ]
          -- the number of the row is that of the samples in the chart
          have hnumber : s.m_timeCounter = s.rows.length ↔ s.m_buffer = [] := by
            rw [hlength, eq_comm, Nat.add_eq_left, List.length_eq_zero_iff]
          constructor
          · intro heq
            rcases List.append_inj' heq rfl with ⟨hold, hnew⟩
            exact ⟨hold, hnumber.1 (List.singleton_inj.1 hnew)⟩
          · rintro ⟨hold, hempty⟩
            rw [hold, ← hnumber.2 hempty]
            rfl
      | plotTimer => exact hother rfl
      | closed => exact hother rfl

/-- Two samples between two ticks of the plot timer carry one number. -/
example :
    let s := (machine true).after
      [.updateChartData 10 0, .plotTimer, .updateChartData 20 0, .updateChartData 30 0, .plotTimer]
    s.rows.map DataRow.number = [0, 1, 1] ∧ s.m_busLoadSeries.map PlotPoint.x = [0, 1, 2] := by
  decide

end StressTestPlot
end Client
end TcpCanUds
