import CircuitSheet.Binary64
import CircuitSheet.Proofs.Wire.Clearance

/-!
# Merged segments

Merging cuts a path into runs, each of which becomes one segment from the start of its first piece
to the end of its last one. Of two merged segments in a row the second does not continue the first.
Pieces that are too short are left out, but the length of a run is not looked at: one that comes
back to its start becomes a segment without a length, and merging again would leave it out.
-/

namespace CircuitSheet

variable {K : Type}

/-! ## Runs -/

/-- Pieces of wire that become one segment: a first one, and those that are merged into it. -/
structure MergedRun (K : Type) where
  first : WireSegment K
  later : List (WireSegment K)

namespace MergedRun

/-- All pieces in their order. -/
def pieces (run : MergedRun K) : List (WireSegment K) :=
  run.first :: run.later

/-- The segment that the pieces become: it leads from the start of the first one to the end of the
last one. -/
def joined (run : MergedRun K) : WireSegment K :=
  { run.first with stop := (run.later.getLastD run.first).stop }

/-- The run with one more piece. -/
def add (run : MergedRun K) (piece : WireSegment K) : MergedRun K :=
  { run with later := run.later ++ [piece] }

@[simp] theorem pieces_add (run : MergedRun K) (piece : WireSegment K) :
    (run.add piece).pieces = run.pieces ++ [piece] := rfl

@[simp] theorem joined_add (run : MergedRun K) (piece : WireSegment K) :
    (run.add piece).joined = { run.joined with stop := piece.stop } := by
  simp [joined, add]

/-- Each piece after the first continues the segment that those before it become. -/
inductive CarriesOn [Scalar K] : MergedRun K → Prop
  | single (piece : WireSegment K) : CarriesOn ⟨piece, []⟩
  | add {run : MergedRun K} {piece : WireSegment K} (carriesOn : run.CarriesOn)
      (continues : run.joined.continues piece = true) : CarriesOn (run.add piece)

end MergedRun

namespace WireSegment

variable [Scalar K]

/-- Cut the rest of a path into runs, the first of which has begun. -/
def runsOnto (run : MergedRun K) : List (WireSegment K) → List (MergedRun K)
  | [] => [run]
  | piece :: rest =>
      if piece.isShort then runsOnto run rest
      else if run.joined.continues piece then runsOnto (run.add piece) rest
      else run :: runsOnto ⟨piece, []⟩ rest

/-- The runs of a path, without the pieces that are too short. -/
def runs : List (WireSegment K) → List (MergedRun K)
  | [] => []
  | piece :: rest => if piece.isShort then runs rest else runsOnto ⟨piece, []⟩ rest

theorem mergeOnto_eq_map_joined (run : MergedRun K) (path : List (WireSegment K)) :
    mergeOnto run.joined path = (runsOnto run path).map MergedRun.joined := by
  fun_induction runsOnto run path with
  | case1 run => rfl
  | case2 run piece rest short inductionHypothesis =>
      rw [mergeOnto, if_pos short, inductionHypothesis]
  | case3 run piece rest long continues inductionHypothesis =>
      rw [mergeOnto, if_neg long, if_pos continues, ← inductionHypothesis, MergedRun.joined_add]
  | case4 run piece rest long stops inductionHypothesis =>
      rw [mergeOnto, if_neg long, if_neg stops, List.map_cons, ← inductionHypothesis]
      rfl

/-- Every run becomes one segment. -/
theorem merge_eq_map_joined (path : List (WireSegment K)) :
    merge path = (runs path).map MergedRun.joined := by
  fun_induction runs path with
  | case1 => rfl
  | case2 piece rest short inductionHypothesis => rw [merge, if_pos short, inductionHypothesis]
  | case3 piece rest long =>
      rw [merge, if_neg long]
      exact mergeOnto_eq_map_joined ⟨piece, []⟩ rest

theorem flatMap_pieces_runsOnto (run : MergedRun K) (path : List (WireSegment K)) :
    (runsOnto run path).flatMap MergedRun.pieces =
      run.pieces ++ path.filter fun piece => !piece.isShort := by
  fun_induction runsOnto run path with
  | case1 run => simp
  | case2 run piece rest short inductionHypothesis => simp [inductionHypothesis, short]
  | case3 run piece rest long continues inductionHypothesis => simp [inductionHypothesis, long]
  | case4 run piece rest long stops inductionHypothesis =>
      simp [inductionHypothesis, long, MergedRun.pieces]

/-- The pieces of the runs are those of the path that are long enough, in their order. -/
theorem flatMap_pieces_runs (path : List (WireSegment K)) :
    (runs path).flatMap MergedRun.pieces = path.filter fun piece => !piece.isShort := by
  fun_induction runs path with
  | case1 => rfl
  | case2 piece rest short inductionHypothesis => simp [inductionHypothesis, short]
  | case3 piece rest long => simp [flatMap_pieces_runsOnto, long, MergedRun.pieces]

theorem carriesOn_runsOnto {run : MergedRun K} (carriesOn : run.CarriesOn)
    (path : List (WireSegment K)) : ∀ other ∈ runsOnto run path, other.CarriesOn := by
  fun_induction runsOnto run path with
  | case1 run => exact List.forall_mem_singleton.mpr carriesOn
  | case2 run piece rest short inductionHypothesis => exact inductionHypothesis carriesOn
  | case3 run piece rest long continues inductionHypothesis =>
      exact inductionHypothesis (.add carriesOn continues)
  | case4 run piece rest long stops inductionHypothesis =>
      exact List.forall_mem_cons.mpr ⟨carriesOn, inductionHypothesis (.single piece)⟩

/-- In every run the pieces carry on from one another. -/
theorem carriesOn_runs (path : List (WireSegment K)) : ∀ run ∈ runs path, run.CarriesOn := by
  fun_induction runs path with
  | case1 => exact List.forall_mem_nil _
  | case2 piece rest short inductionHypothesis => exact inductionHypothesis
  | case3 piece rest long => exact carriesOn_runsOnto (.single piece) rest

/-! ## Neighbours -/

/-- Whether a segment continues another is a matter of where it starts. -/
theorem continues_joined (segment : WireSegment K) (run : MergedRun K) :
    segment.continues run.joined = segment.continues run.first := rfl

theorem first_of_mem_head?_runsOnto {run other : MergedRun K} {path : List (WireSegment K)}
    (isHead : other ∈ (runsOnto run path).head?) : other.first = run.first := by
  fun_induction runsOnto run path with
  | case1 run => exact congrArg MergedRun.first (Option.some.inj isHead).symm
  | case2 run piece rest short inductionHypothesis => exact inductionHypothesis isHead
  | case3 run piece rest long continues inductionHypothesis => exact inductionHypothesis isHead
  | case4 run piece rest long stops inductionHypothesis =>
      exact congrArg MergedRun.first (Option.some.inj isHead).symm

theorem isChain_runsOnto (run : MergedRun K) (path : List (WireSegment K)) :
    (runsOnto run path).IsChain fun one next => one.joined.continues next.joined = false := by
  fun_induction runsOnto run path with
  | case1 run => exact .singleton run
  | case2 run piece rest short inductionHypothesis => exact inductionHypothesis
  | case3 run piece rest long continues inductionHypothesis => exact inductionHypothesis
  | case4 run piece rest long stops inductionHypothesis =>
      refine List.isChain_cons.mpr ⟨fun next isHead => ?_, inductionHypothesis⟩
      rw [continues_joined, first_of_mem_head?_runsOnto isHead]
      exact eq_false_of_ne_true stops

/-- Of two merged segments in a row the second does not continue the first. -/
theorem isChain_merge (path : List (WireSegment K)) :
    (merge path).IsChain fun one next => one.continues next = false := by
  rw [merge_eq_map_joined, List.isChain_map]
  fun_induction runs path with
  | case1 => exact .nil
  | case2 piece rest short inductionHypothesis => exact inductionHypothesis
  | case3 piece rest long => exact isChain_runsOnto ⟨piece, []⟩ rest

/-! ## Merging again -/

theorem mergeOnto_eq_cons {last : WireSegment K} {path : List (WireSegment K)}
    (long : ∀ segment ∈ path, segment.isShort = false)
    (chain : (last :: path).IsChain fun one next => one.continues next = false) :
    mergeOnto last path = last :: path := by
  induction path generalizing last with
  | nil => rfl
  | cons segment rest inductionHypothesis =>
      obtain ⟨segmentLong, restLong⟩ := List.forall_mem_cons.mp long
      obtain ⟨stops, restChain⟩ := List.isChain_cons_cons.mp chain
      rw [mergeOnto, if_neg (by simp [segmentLong]), if_neg (by simp [stops]),
        inductionHypothesis restLong restChain]

/-- Merging changes nothing where no segment is too short and none continues the one before it. -/
theorem merge_eq_self {path : List (WireSegment K)}
    (long : ∀ segment ∈ path, segment.isShort = false)
    (chain : path.IsChain fun one next => one.continues next = false) : merge path = path := by
  cases path with
  | nil => rfl
  | cons segment rest =>
      obtain ⟨segmentLong, restLong⟩ := List.forall_mem_cons.mp long
      rw [merge, if_neg (by simp [segmentLong]), mergeOnto_eq_cons restLong chain]

/-- There are no more merged segments than pieces that are long enough. -/
theorem length_merge_le (path : List (WireSegment K)) :
    (merge path).length ≤ (path.filter fun piece => !piece.isShort).length := by
  rw [merge_eq_map_joined, List.length_map, ← flatMap_pieces_runs, List.length_flatMap]
  have counted := List.length_le_sum_of_one_le ((runs path).map fun run => run.pieces.length)
    (List.forall_mem_map.mpr fun run _ => Nat.succ_pos run.later.length)
  rwa [List.length_map] at counted

/-- Merging again changes nothing exactly when no merged segment is too short. -/
theorem merge_merge_iff (path : List (WireSegment K)) :
    merge (merge path) = merge path ↔ ∀ segment ∈ merge path, segment.isShort = false := by
  constructor
  · intro same segment member
    have fewer := length_merge_le (merge path)
    rw [same] at fewer
    have all : (merge path).filter (fun piece => !piece.isShort) = merge path :=
      List.filter_sublist.eq_of_length_le fewer
    have isLong := List.filter_eq_self.mp all segment member
    rwa [Bool.not_eq_true'] at isLong
  · exact fun long => merge_eq_self long (isChain_merge path)

/-- Nothing is left to leave out or to merge. -/
structure InNormalForm (path : List (WireSegment K)) : Prop where
  long : ∀ segment ∈ path, segment.isShort = false
  apart : path.IsChain fun one next => one.continues next = false
  settled : merge path = path

/-- Merging leads to a normal form exactly where no run comes back to where it started. -/
theorem inNormalForm_merge_iff (path : List (WireSegment K)) :
    InNormalForm (merge path) ↔ ∀ run ∈ runs path, run.joined.isShort = false := by
  have long : (∀ segment ∈ merge path, segment.isShort = false) ↔
      ∀ run ∈ runs path, run.joined.isShort = false := by
    rw [merge_eq_map_joined, List.forall_mem_map]
  rw [← long]
  exact ⟨InNormalForm.long, fun long => ⟨long, isChain_merge path, (merge_merge_iff path).mpr long⟩⟩

/-- A merged segment is too short only where several pieces come back to where they started. -/
theorem later_ne_nil_of_isShort {path : List (WireSegment K)} {run : MergedRun K}
    (member : run ∈ runs path) (short : run.joined.isShort = true) : run.later ≠ [] := by
  intro alone
  have isPiece : run.first ∈ path.filter fun piece => !piece.isShort := by
    rw [← flatMap_pieces_runs]
    exact List.mem_flatMap.mpr ⟨run, member, List.mem_cons_self⟩
  have long := (List.mem_filter.mp isPiece).2
  rw [MergedRun.joined, alone, List.getLastD_nil] at short
  rw [short] at long
  cases long

theorem mergeOnto_of_turning {last : WireSegment K} {path : List (WireSegment K)}
    (turns : (last :: path).Pairwise fun one next => one.orientation ≠ next.orientation) :
    mergeOnto last path = last :: path.filter fun piece => !piece.isShort := by
  induction path generalizing last with
  | nil => rfl
  | cons segment rest inductionHypothesis =>
      obtain ⟨lastTurns, restTurns⟩ := List.pairwise_cons.mp turns
      obtain ⟨turnsHere, turnsLater⟩ := List.forall_mem_cons.mp lastTurns
      have stops : last.continues segment = false := by simp [continues, turnsHere]
      have withoutSegment := List.pairwise_cons.mpr
        ⟨turnsLater, (List.pairwise_cons.mp restTurns).2⟩
      cases short : segment.isShort with
      | true => simp [mergeOnto, short, inductionHypothesis withoutSegment]
      | false => simp [mergeOnto, short, stops, inductionHypothesis restTurns]

/-- Where no two pieces run along the same axis, nothing is merged. -/
theorem merge_of_turning {path : List (WireSegment K)}
    (turns : path.Pairwise fun one next => one.orientation ≠ next.orientation) :
    merge path = path.filter fun piece => !piece.isShort := by
  induction path with
  | nil => rfl
  | cons segment rest inductionHypothesis =>
      cases short : segment.isShort with
      | true => simp [merge, short, inductionHypothesis (List.pairwise_cons.mp turns).2]
      | false => simp [merge, short, mergeOnto_of_turning turns]

end WireSegment

/-! ## Paths -/

namespace Path

open WireSegment (merge runs InNormalForm)

variable [Scalar K]

/-- The pieces of a bent path run along different axes. -/
theorem pairwise_bent (start stop : Point K) (startAngle stopAngle : Option K) :
    (bent start stop startAngle stopAngle).Pairwise fun one next =>
      one.orientation ≠ next.orientation := by
  simp only [bent]
  split_ifs <;> simp

/-- A bent path has no segments that are too short. -/
theorem isShort_of_mem_merge_bent (start stop : Point K) (startAngle stopAngle : Option K) :
    ∀ segment ∈ merge (bent start stop startAngle stopAngle), segment.isShort = false := by
  rw [WireSegment.merge_of_turning (pairwise_bent ..)]
  intro segment member
  have long := (List.mem_filter.mp member).2
  rwa [Bool.not_eq_true'] at long

/-- What merging makes of a path are its runs, each of them joined. Pieces that are too short are
left out, the other ones are all there in their order, and no run carries on from the one before it.
A joined run is too short only where several pieces come back to where they started; where none
does, and only there, the merged path is in normal form. So a bent path is always found, without a
segment that is too short, and one with detours is without such segments exactly where no run of the
path that came clear comes back. -/
theorem merge_runs (path : List (WireSegment K)) :
    (merge path = (runs path).map MergedRun.joined ∧
      (runs path).flatMap MergedRun.pieces = path.filter (fun piece => !piece.isShort) ∧
      ∀ run ∈ runs path, run.CarriesOn) ∧
    (merge path).IsChain (fun one next => one.continues next = false) ∧
    (∀ run ∈ runs path, run.joined.isShort = true → run.later ≠ []) ∧
    (InNormalForm (merge path) ↔ ∀ run ∈ runs path, run.joined.isShort = false) ∧
    ∀ (obstacles : List (Obstacle K)) (ignored : List String) (start stop : Point K)
      (startAngle stopAngle : Option K),
      (∃ route, find obstacles ignored .manhattan start stop startAngle stopAngle = .ok route ∧
        ∀ segment ∈ route, segment.isShort = false) ∧
      ∀ route, find obstacles ignored .optimized start stop startAngle stopAngle = .ok route →
        ∃ clear, avoid? obstacles ignored maxDetours (bent start stop startAngle stopAngle) =
            some clear ∧
          route = merge clear ∧
          ((∀ segment ∈ route, segment.isShort = false) ↔
            ∀ run ∈ runs clear, run.joined.isShort = false) := by
  refine ⟨⟨WireSegment.merge_eq_map_joined path, WireSegment.flatMap_pieces_runs path,
    WireSegment.carriesOn_runs path⟩, WireSegment.isChain_merge path,
    fun run => WireSegment.later_ne_nil_of_isShort, WireSegment.inNormalForm_merge_iff path, ?_⟩
  intro obstacles ignored start stop startAngle stopAngle
  refine ⟨⟨_, rfl, isShort_of_mem_merge_bent start stop startAngle stopAngle⟩, ?_⟩
  intro route found
  obtain ⟨clear, avoided, rfl⟩ := exists_avoid?_of_find found
  refine ⟨clear, avoided, rfl, ?_⟩
  rw [WireSegment.merge_eq_map_joined, List.forall_mem_map]

/-- A piece of wire and another one that turns back on it. -/
def turnedBack : List (WireSegment Float) :=
  [⟨⟨0.0, 0.0⟩, ⟨5.0, 0.0⟩, .horizontal⟩, ⟨⟨5.0, 0.0⟩, ⟨0.0, 0.0⟩, .horizontal⟩]

/-- A body whose edge is as far from the start of a path as detours keep from it. -/
def levelObstacle : Obstacle Float :=
  ⟨20.0, 2.54, 40.0, 20.0, "U1"⟩

/-- The path that is found around the body. It was to start upwards, and the detour comes back. -/
def returningPath : List (WireSegment Float) :=
  [⟨⟨0.0, 0.0⟩, ⟨0.0, 0.0⟩, .vertical⟩, ⟨⟨0.0, 0.0⟩, ⟨60.0, 0.0⟩, .horizontal⟩,
    ⟨⟨60.0, 0.0⟩, ⟨60.0, 10.0⟩, .vertical⟩]

theorem find_returningPath :
    find [levelObstacle] [] .optimized ⟨0.0, 0.0⟩ ⟨60.0, 10.0⟩ none (some 0.0) =
      .ok returningPath := by
  decide +kernel

theorem merge_runs_returning :
    find [levelObstacle] [] .optimized ⟨0.0, 0.0⟩ ⟨60.0, 10.0⟩ none (some 0.0) =
        .ok returningPath ∧
      (InNormalForm (merge turnedBack) ↔ ∀ run ∈ runs turnedBack, run.joined.isShort = false) ∧
      ∃ clear, avoid? [levelObstacle] [] maxDetours (bent ⟨0.0, 0.0⟩ ⟨60.0, 10.0⟩ none (some 0.0)) =
          some clear ∧
        returningPath = merge clear ∧
        ((∀ segment ∈ returningPath, segment.isShort = false) ↔
          ∀ run ∈ runs clear, run.joined.isShort = false) := by
  obtain ⟨-, -, -, normal, routes⟩ := merge_runs turnedBack
  exact ⟨find_returningPath, normal, (routes [levelObstacle] [] _ _ _ _).2 _ find_returningPath⟩

/-- Merging makes a segment without a length of two pieces that have one, and merging again drops
it; a path with a detour starts with such a segment, too. -/
theorem merge_turnedBack :
    merge turnedBack = [⟨⟨0.0, 0.0⟩, ⟨0.0, 0.0⟩, .horizontal⟩] ∧
      merge (merge turnedBack) = [] ∧
      find [levelObstacle] [] .optimized ⟨0.0, 0.0⟩ ⟨60.0, 10.0⟩ none (some 0.0) =
        .ok returningPath ∧
      returningPath.any (·.isShort) = true := by
  refine ⟨?_, ?_, find_returningPath, ?_⟩ <;> decide +kernel

end Path
end CircuitSheet
