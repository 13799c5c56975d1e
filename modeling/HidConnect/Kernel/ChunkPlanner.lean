import HidConnect.Kernel.PlanExecutor

/-! A plan cut into chunks of four steps. Each of them is to end with an observation, from which the agent
plans on. -/
namespace HidConnect.Kernel

def maxChunkSize : Nat := 4

inductive ChunkError where
  | tooLarge (count max : Nat)
  | missingObserve
  | empty
  deriving DecidableEq

structure Chunk where
  index : UInt32
  total : UInt32
  steps : List PlanStep
  deriving DecidableEq

/-- The loop of `plan_chunk_size`. -/
def chunkSizes (remaining : Nat) : List Nat :=
  if 0 < remaining then
    let take := min remaining maxChunkSize
    take :: chunkSizes (remaining - take)
  else []
termination_by remaining
decreasing_by
  unfold maxChunkSize
  omega

def planChunkSize (totalAtomics : Nat) : List Nat :=
  if totalAtomics = 0 then [] else chunkSizes totalAtomics

def isObserveAction : Action → Bool
  | .dumpObservation _ _ => true
  | _ => false

def validateChunk (chunk : List PlanStep) : Except ChunkError Unit :=
  match chunk.getLast? with
  | none => .error .empty
  | some last =>
    if maxChunkSize < chunk.length then .error (.tooLarge chunk.length maxChunkSize)
    else if isObserveAction last.action then .ok ()
    else .error .missingObserve

/-- `PlanStep::new` -/
def PlanStep.new (action : Action) : PlanStep :=
  { id := 0, action, waitBefore := none, verifyAfter := none, label := none }

def appendedObserve : PlanStep := .new (.dumpObservation [] 100)

def Plan.observed (plan : Plan) : List PlanStep :=
  if (plan.steps.getLast?.any fun s => isObserveAction s.action) then plan.steps
  else plan.steps ++ [appendedObserve]

/-- The loop over the sizes. A slice that goes past the end panics. -/
def cutChunks (steps : List PlanStep) (total : UInt32) : List Nat → Nat → Nat → Option (List Chunk)
  | [], _, _ => some []
  | n :: sizes, i, offset =>
    if offset + n ≤ steps.length then
      (cutChunks steps total sizes (i + 1) (offset + n)).map fun chunks =>
        { index := i.toUInt32, total, steps := (steps.drop offset).take n } :: chunks
    else none

def splitIntoChunks (plan : Plan) : Option (List Chunk) :=
  if plan.steps = [] then some []
  else
    let sizes := planChunkSize plan.observed.length
    cutChunks plan.observed sizes.length.toUInt32 sizes 0 0

theorem planChunkSize_eq (total : Nat) : planChunkSize total = chunkSizes total := by
  unfold planChunkSize
  by_cases none : total = 0
  · rw [if_pos none, none, chunkSizes, if_neg (Nat.lt_irrefl 0)]
  · exact if_neg none

theorem length_chunkSizes (remaining : Nat) : (chunkSizes remaining).length = (remaining + 3) / 4 := by
  induction remaining using chunkSizes.induct with
  | case1 remaining more take ih =>
    rw [chunkSizes, if_pos more, List.length_cons, ih]
    unfold take maxChunkSize
    omega
  | case2 remaining done =>
    rw [chunkSizes, if_neg done, List.length_nil]
    omega

/-- The loop stays within the steps, hands each of them on once, and gives every chunk its four. -/
theorem cutChunks_chunkSizes {steps : List PlanStep} (total : UInt32) {remaining : Nat} (i : Nat)
    {offset : Nat} (whole : offset + remaining = steps.length) :
    ∃ chunks, cutChunks steps total (chunkSizes remaining) i offset = some chunks ∧
      chunks.length = (chunkSizes remaining).length ∧
      chunks.flatMap Chunk.steps = steps.drop offset ∧
      ∀ k, chunks[k]? = if 4 * k < remaining then
        some { index := (i + k).toUInt32, total, steps := (steps.drop (offset + 4 * k)).take 4 }
        else none := by
  induction remaining using chunkSizes.induct generalizing i offset with
  | case2 remaining done =>
    rw [chunkSizes, if_neg done]
    refine ⟨[], rfl, rfl, ?_, fun k => ?_⟩
    · rw [List.drop_of_length_le (by omega), List.flatMap_nil]
    · rw [if_neg (by omega), List.getElem?_nil]
  | case1 remaining more take ih =>
    have taken : take = min remaining 4 := rfl
    have rest : offset + take + (remaining - take) = steps.length := by omega
    obtain ⟨chunks, cut, many, flat, each⟩ := ih (i + 1) rest
    rw [chunkSizes, if_pos more]
    refine ⟨{ index := i.toUInt32, total, steps := (steps.drop offset).take take } :: chunks, ?_,
      congrArg Nat.succ many, ?_, ?_⟩
    · change cutChunks steps total (take :: chunkSizes (remaining - take)) i offset = _
      rw [cutChunks, if_pos (by omega), cut, Option.map_some]
    · rw [List.flatMap_cons, flat, ← List.drop_drop]
      exact List.take_append_drop take _
    · intro k
      cases k with
      | zero =>
        have four : (steps.drop offset).take take = (steps.drop offset).take 4 := by
          rw [List.take_eq_take_iff, List.length_drop]
          omega
        rw [if_pos (by omega), List.getElem?_cons_zero, four]
        simp
      | succ k =>
        rw [List.getElem?_cons_succ, each]
        by_cases more : 4 * (k + 1) < remaining
        · have next : offset + take + 4 * k = offset + 4 * (k + 1) := by omega
          rw [if_pos (by omega), if_pos more, next, Nat.add_right_comm]
          rfl
        · rw [if_neg (by omega), if_neg more]

theorem validateChunk_eq_ok {chunk : List PlanStep} :
    validateChunk chunk = .ok () ↔
      chunk.length ≤ 4 ∧ ∃ last, chunk.getLast? = some last ∧ isObserveAction last.action = true := by
  unfold validateChunk
  cases chunk.getLast? with
  | none => simp
  | some last =>
    by_cases large : maxChunkSize < chunk.length
    · have above : ¬ chunk.length ≤ 4 := Nat.not_le_of_lt large
      simp [large, above]
    · have below : chunk.length ≤ 4 := Nat.le_of_not_lt large
      simp [large, below]

theorem getLast?_slice {steps : List PlanStep} {k : Nat} (inside : 4 * k < steps.length) :
    ((steps.drop (4 * k)).take 4).getLast? = steps[min (4 * k + 3) (steps.length - 1)]? := by
  rw [List.getLast?_eq_getElem?, List.length_take, List.length_drop, List.getElem?_take, if_pos (by omega),
    List.getElem?_drop]
  congr 1
  omega

/-- Every fourth step of a plan observes. -/
def Plan.ObservesInTime (plan : Plan) : Prop :=
  ∀ i step, plan.steps[i]? = some step → i % 4 = 3 → isObserveAction step.action = true

theorem observed_of_ends (plan : Plan) : plan.observed = plan.steps ∨
    plan.observed = plan.steps ++ [appendedObserve] := by
  unfold Plan.observed
  split
  · exact .inl rfl
  · exact .inr rfl

theorem observed_ends (plan : Plan) :
    ∃ last, plan.observed.getLast? = some last ∧ isObserveAction last.action = true := by
  unfold Plan.observed
  split
  · rename_i ends
    simpa [Option.any_eq_true] using ends
  · exact ⟨appendedObserve, List.getLast?_concat, rfl⟩

/-- Of the chunks cut from a plan only its own fourth steps are left open. -/
theorem slices_end_iff {plan : Plan} (some_ : plan.steps ≠ []) :
    (∀ k, 4 * k < plan.observed.length → ∃ last,
      ((plan.observed.drop (4 * k)).take 4).getLast? = some last ∧ isObserveAction last.action = true) ↔
    plan.ObservesInTime := by
  have steps_pos : 0 < plan.steps.length := List.length_pos_iff.mpr some_
  have bounds : plan.steps.length ≤ plan.observed.length ∧
      plan.observed.length ≤ plan.steps.length + 1 := by
    rcases observed_of_ends plan with same | same <;> rw [same] <;> simp
  have own {i : Nat} (inside : i < plan.steps.length) : plan.observed[i]? = plan.steps[i]? := by
    rcases observed_of_ends plan with same | same
    · rw [same]
    · rw [same, List.getElem?_append_left inside]
  constructor
  · intro ends i step at_ fourth
    have inside : i < plan.steps.length := (List.getElem?_eq_some_iff.mp at_).1
    obtain ⟨last, found, observes⟩ := ends (i / 4) (by omega)
    have here : min (4 * (i / 4) + 3) (plan.observed.length - 1) = i := by omega
    rw [getLast?_slice (by omega), here, own inside, at_] at found
    cases found
    exact observes
  · intro inTime k inside
    rw [getLast?_slice inside]
    by_cases within : 4 * k + 3 < plan.steps.length
    · have here : min (4 * k + 3) (plan.observed.length - 1) = 4 * k + 3 := by omega
      rw [here, own within, List.getElem?_eq_getElem within]
      exact ⟨_, rfl, inTime _ _ (List.getElem?_eq_getElem within) (by omega)⟩
    · have here : min (4 * k + 3) (plan.observed.length - 1) = plan.observed.length - 1 := by omega
      rw [here, ← List.getLast?_eq_getElem?]
      exact observed_ends plan

structure WellCut (plan : Plan) (chunks : List Chunk) : Prop where
  valid : ∀ chunk ∈ chunks, validateChunk chunk.steps = .ok ()
  numbered : ∀ (i : Nat) (chunk : Chunk), chunks[i]? = some chunk →
    chunk.index.toNat = i ∧ chunk.total.toNat = chunks.length
  content : chunks.flatMap Chunk.steps = plan.steps ∨
    chunks.flatMap Chunk.steps = plan.steps ++ [appendedObserve]

theorem observed_pos (plan : Plan) : 0 < plan.observed.length := by
  obtain ⟨last, ends, -⟩ := observed_ends plan
  apply List.length_pos_iff.mpr
  intro none
  rw [none] at ends
  cases ends

theorem splitIntoChunks_eq {plan : Plan} (some_ : plan.steps ≠ []) :
    ∃ chunks, splitIntoChunks plan = some chunks ∧
      chunks.length = (plan.observed.length + 3) / 4 ∧
      chunks.flatMap Chunk.steps = plan.observed ∧
      ∀ k, chunks[k]? = if 4 * k < plan.observed.length then
        some { index := k.toUInt32, total := chunks.length.toUInt32
               steps := (plan.observed.drop (4 * k)).take 4 }
        else none := by
  obtain ⟨chunks, cut, many, flat, each⟩ := cutChunks_chunkSizes
    (chunkSizes plan.observed.length).length.toUInt32 0 (Nat.zero_add plan.observed.length)
  simp only [Nat.zero_add, List.drop_zero] at flat each
  rw [← many] at each
  refine ⟨chunks, ?_, many.trans (length_chunkSizes _), flat, each⟩
  unfold splitIntoChunks
  rw [if_neg some_, planChunkSize_eq]
  exact cut

/-- The planner keeps its promise on the plans that do so themselves at every fourth step. -/
theorem split_wellCut_iff {plan : Plan} (some_ : plan.steps ≠ []) :
    ∃ chunks, splitIntoChunks plan = some chunks ∧
      (WellCut plan chunks ↔
        plan.ObservesInTime ∧ plan.observed.length ≤ 4 * (2 ^ 32 - 1)) := by
  obtain ⟨chunks, cut, count, flat, each⟩ := splitIntoChunks_eq some_
  have positive := observed_pos plan
  have total : chunks.length.toUInt32.toNat = chunks.length % 2 ^ 32 := UInt32.toNat_ofNat'
  refine ⟨chunks, cut, ?_, ?_⟩
  · intro well
    constructor
    · refine (slices_end_iff some_).mp fun k inside => ?_
      have found := each k
      rw [if_pos inside] at found
      exact (validateChunk_eq_ok.mp (well.valid _ (List.mem_of_getElem? found))).2
    · have first := each 0
      rw [if_pos (by omega)] at first
      have known := (well.numbered 0 _ first).2
      dsimp only at known
      rw [total] at known
      have := Nat.mod_lt chunks.length (Nat.two_pow_pos 32)
      omega
  · rintro ⟨inTime, few⟩
    have short : chunks.length < 2 ^ 32 := by omega
    have known {i : Nat} {chunk : Chunk} (found : chunks[i]? = some chunk) :
        4 * i < plan.observed.length ∧ chunk = {
          index := i.toUInt32, total := chunks.length.toUInt32
          steps := (plan.observed.drop (4 * i)).take 4 } := by
      rw [each] at found
      split at found
      · rename_i inside
        exact ⟨inside, (Option.some.inj found).symm⟩
      · cases found
    constructor
    · intro chunk member
      obtain ⟨k, found⟩ := List.mem_iff_getElem?.mp member
      obtain ⟨inside, rfl⟩ := known found
      exact validateChunk_eq_ok.mpr ⟨List.length_take_le 4 _, (slices_end_iff some_).mpr inTime k inside⟩
    · intro i chunk found
      obtain ⟨inside, rfl⟩ := known found
      have here : i < 2 ^ 32 := Nat.lt_trans (List.getElem?_eq_some_iff.mp found).1 short
      exact ⟨UInt32.toNat_ofNat_of_lt' here, total.trans (Nat.mod_eq_of_lt short)⟩
    · rw [flat]
      exact observed_of_ends plan

def planOf (actions : List Action) : Plan :=
  { steps := actions.map .new, abortOnError := true, checkpointEvery := 0 }

def lookingPlan : Plan := planOf (List.replicate 2
  [.tap 0 0 100, .tap 0 0 100, .tap 0 0 100, .dumpObservation [] 100]).flatten

theorem lookingPlan_wellCut :
    ∃ chunks, splitIntoChunks lookingPlan = some chunks ∧
      (WellCut lookingPlan chunks ↔
        lookingPlan.ObservesInTime ∧ lookingPlan.observed.length ≤ 4 * (2 ^ 32 - 1)) :=
  split_wellCut_iff (List.cons_ne_nil _ _)

def sevenTaps : Plan := planOf (List.replicate 7 (.tap 0 0 100))

theorem seven_taps_left_open :
    ∃ chunks, splitIntoChunks sevenTaps = some chunks ∧
      ∃ chunk ∈ chunks, validateChunk chunk.steps = .error .missingObserve := by
  have sizes : planChunkSize sevenTaps.observed.length = [4, 4] := by
    change planChunkSize 8 = [4, 4]
    simp [planChunkSize, chunkSizes, maxChunkSize]
  have cut : splitIntoChunks sevenTaps = cutChunks sevenTaps.observed 2 [4, 4] 0 0 := by
    have some_ : sevenTaps.steps ≠ [] := List.cons_ne_nil _ _
    unfold splitIntoChunks
    rw [if_neg some_, sizes]
    rfl
  rw [cut]
  exact ⟨_, rfl, _, List.mem_cons_self, rfl⟩

end HidConnect.Kernel
