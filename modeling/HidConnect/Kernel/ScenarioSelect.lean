import HidConnect.Kernel.ColdStart
import HidConnect.Library.Catalogue

/-! What the scenario library selects for a plan. -/
namespace HidConnect.Kernel

namespace ScenarioLibrary
variable {lib : ScenarioLibrary}

def select (lib : ScenarioLibrary) (planId : PlanId) : Option ScenarioEntry := lib.lookup planId

def Has (lib : ScenarioLibrary) (planId : PlanId) (kind : ScenarioKind) : Prop :=
  ∃ id : ScenarioId, ∃ entry : ScenarioEntry, lib.entries[id]? = some entry ∧
    entry.plan.id = planId ∧ entry.kind = kind

/-- A template if the plan has one, else a recording if it has one, else nothing. -/
structure SelectsBest (lib : ScenarioLibrary) (planId : PlanId) : Prop where
  template : lib.Has planId .template → ∃ entry, lib.select planId = some entry ∧
    entry.plan.id = planId ∧ entry.kind = .template
  recording : ¬lib.Has planId .template → lib.Has planId .recording →
    ∃ entry, lib.select planId = some entry ∧ entry.plan.id = planId ∧ entry.kind = .recording
  nothing : ¬lib.Has planId .template → ¬lib.Has planId .recording → lib.select planId = none

def shown (entry : ScenarioEntry) : PlanId × ScenarioKind := (entry.plan.id, entry.kind)

def catalogue (lib : ScenarioLibrary) : Catalogue PlanId ScenarioId ScenarioKind where
  index planId := lib.planToScenario[planId]?
  items id := lib.entries[id]?.map shown

@[simp] theorem catalogue_index (lib : ScenarioLibrary) (planId : PlanId) :
    lib.catalogue.index planId = lib.planToScenario[planId]? := rfl

@[simp] theorem catalogue_items (lib : ScenarioLibrary) (id : ScenarioId) :
    lib.catalogue.items id = lib.entries[id]?.map shown := rfl

theorem catalogue_held {id : ScenarioId} {entry : ScenarioEntry}
    (held : lib.entries[id]? = some entry) :
    lib.catalogue.items id = some (entry.plan.id, entry.kind) := by
  rw [catalogue_items, held]
  rfl

theorem catalogue_found (lib : ScenarioLibrary) (planId : PlanId) :
    lib.catalogue.found planId = (lib.select planId).map shown := by
  rw [Catalogue.found, select, lookup, catalogue_index, Option.map_bind]
  rfl

theorem catalogue_holds {planId : PlanId} {kind : ScenarioKind} :
    lib.catalogue.Holds planId kind ↔ lib.Has planId kind := by
  constructor
  · rintro ⟨id, held⟩
    obtain ⟨entry, held, same⟩ := Option.map_eq_some_iff.mp held
    exact ⟨id, entry, held, congrArg Prod.fst same, congrArg Prod.snd same⟩
  · rintro ⟨id, entry, held, rfl, rfl⟩
    exact ⟨id, catalogue_held held⟩

theorem selectsBest_iff (lib : ScenarioLibrary) (planId : PlanId) :
    SelectsBest lib planId ↔ lib.catalogue.Best .template .recording planId := by
  have view := lib.catalogue_found planId
  rw [Catalogue.Best, view]
  simp only [catalogue_holds]
  cases selected : lib.select planId with
  | none =>
    constructor
    · rintro ⟨template, recording, -⟩
      have first : ¬lib.Has planId .template := fun has => by simpa [selected] using template has
      exact ⟨first, fun has => by simpa [selected] using recording first has⟩
    · rintro ⟨first, second⟩
      exact ⟨fun has => absurd has first, fun _ has => absurd has second, fun _ _ => selected⟩
  | some entry =>
    change _ ↔ entry.plan.id = planId ∧ (entry.kind = .template ∨ entry.kind = .recording ∧ _)
    constructor
    · rintro ⟨template, recording, nothing⟩
      by_cases first : lib.Has planId .template
      · obtain ⟨entry', same, plan, kind⟩ := template first
        obtain rfl := Option.some.inj (selected.symm.trans same)
        exact ⟨plan, .inl kind⟩
      · by_cases second : lib.Has planId .recording
        · obtain ⟨entry', same, plan, kind⟩ := recording first second
          obtain rfl := Option.some.inj (selected.symm.trans same)
          exact ⟨plan, .inr ⟨kind, first⟩⟩
        · cases selected.symm.trans (nothing first second)
    · rintro ⟨plan, kind⟩
      obtain ⟨id, -, held⟩ := Option.bind_eq_some_iff.mp selected
      have has : lib.Has planId entry.kind := ⟨id, entry, held, plan, rfl⟩
      rcases kind with template | ⟨recording, none⟩
      · rw [template] at has
        exact ⟨fun _ => ⟨entry, selected, plan, template⟩, fun none => absurd has none,
          fun none => absurd has none⟩
      · rw [recording] at has
        exact ⟨fun some => absurd some none, fun _ _ => ⟨entry, selected, plan, recording⟩,
          fun _ none => absurd has none⟩

/- The operations, as the catalogue sees them. -/

theorem items_insert (lib : ScenarioLibrary) (id : ScenarioId) (entry : ScenarioEntry) :
    (fun other => (lib.entries.insert id entry)[other]?.map shown) =
      Function.update lib.catalogue.items id (some (shown entry)) := by
  funext other
  rw [Std.TreeMap.getElem?_insert, Function.update_apply]
  by_cases same : other = id
  · subst same
    rw [if_pos Std.ReflCmp.compare_self, if_pos rfl]
    rfl
  · rw [if_neg fun equal => same (Std.LawfulEqCmp.eq_of_compare equal).symm, if_neg same]
    rfl

theorem catalogue_setKind (lib : ScenarioLibrary) (id : ScenarioId) (kind : ScenarioKind) :
    (lib.setKind id kind).catalogue = lib.catalogue.retag id kind := by
  unfold setKind
  cases held : lib.entries[id]? with
  | none =>
    have none : lib.catalogue.items id = none := by rw [catalogue_items, held, Option.map_none]
    refine Catalogue.ext rfl ?_
    rw [Catalogue.retag_items, none, Option.map_none, ← none, Function.update_eq_self]
  | some entry =>
    refine Catalogue.ext rfl ((lib.items_insert id _).trans ?_)
    rw [Catalogue.retag_items, catalogue_held held]
    rfl

theorem catalogue_updateOutcome (lib : ScenarioLibrary) (planId : PlanId) (success : Bool) (nowMs : Nat) :
    (lib.updateOutcome planId success nowMs).catalogue = lib.catalogue := by
  unfold updateOutcome
  split
  case h_1 => rfl
  case h_2 id listed =>
    split
    case h_1 => rfl
    case h_2 entry held =>
      refine Catalogue.ext rfl ((lib.items_insert id _).trans ?_)
      have same : shown (counted entry success nowMs) = shown entry := rfl
      rw [same, shown, ← catalogue_held held, Function.update_eq_self]

theorem catalogue_evict (lib : ScenarioLibrary) :
    (lib.entries.size < maxLibrarySize ∧ lib.evict.catalogue = lib.catalogue) ∨
      (maxLibrarySize ≤ lib.entries.size ∧ ∃ id entry, lib.oldest = some (id, entry) ∧
        lib.evict.catalogue = lib.catalogue.drop id) := by
  rcases evict_cases lib with ⟨room, same⟩ | ⟨full, id, entry, oldest, erased⟩
  · exact .inl ⟨room, by rw [same]⟩
  · refine .inr ⟨full, id, entry, oldest, Catalogue.ext ?_ (funext fun other => ?_)⟩
    · funext planId
      rw [catalogue_index, evict_planToScenario]
      rfl
    · rw [catalogue_items, erased, Std.TreeMap.getElem?_erase, Catalogue.drop_items,
        Function.update_apply]
      by_cases same : other = id
      · subst same
        rw [if_pos Std.ReflCmp.compare_self, if_pos rfl, Option.map_none]
      · rw [if_neg fun equal => same (Std.LawfulEqCmp.eq_of_compare equal).symm, if_neg same]
        rfl

theorem catalogue_add (lib : ScenarioLibrary) (id : ScenarioId) (kind : ScenarioKind)
    (plan : StoredPlan) (nowMs : Nat) :
    (lib.add id kind plan nowMs).catalogue = lib.evict.catalogue.put id plan.id kind := by
  refine Catalogue.ext (funext fun planId => ?_) ?_
  · rw [catalogue_index, add_planToScenario, Catalogue.put_index, Function.update_apply,
      catalogue_index, evict_planToScenario]
  · exact lib.evict.items_insert id _

end ScenarioLibrary

/-- A library in use, and the entries of it that were demoted. -/
structure Selection where
  scenarios : Scenarios
  demoted : List ScenarioId

namespace Selection
open ScenarioLibrary Scenarios

def new (counter : Nat) : Selection := { scenarios := .new counter, demoted := [] }

abbrev library (s : Selection) : ScenarioLibrary := s.scenarios.library

def step (s : Selection) (op : ScenarioOp) : Selection where
  scenarios := s.scenarios.step op
  demoted :=
    match op with
    | .demote id => if (s.library.demote id).1 then id :: s.demoted else s.demoted
    | _ => s.demoted

/-- The best entry is selected for every plan, and none that was demoted. -/
structure Selecting (s : Selection) : Prop where
  best : ∀ planId, s.library.SelectsBest planId
  retired : ∀ planId entry, s.library.select planId = some entry → entry.id ∉ s.demoted

/-- What is added is a template, or a recording of a plan that has no template left; an entry by which
another plan is found gives way only if that plan has no other template or recording; and the template
that is demoted is not the one by which its plan is found. -/
def Fitting (s : Selection) : ScenarioOp → Prop
  | .add kind plan _ =>
    (kind = .template ∨ kind = .recording ∧ ¬s.library.evict.Has plan.id .template) ∧
      (maxLibrarySize ≤ s.library.entries.size → ∀ id entry, s.library.oldest = some (id, entry) →
        s.library.planToScenario[entry.plan.id]? = some id → entry.plan.id ≠ plan.id →
          ¬s.library.evict.Has entry.plan.id .template ∧
            ¬s.library.evict.Has entry.plan.id .recording)
  | .demote id => ∀ entry, s.library.entries[id]? = some entry → entry.kind = .template →
      s.library.planToScenario[entry.plan.id]? ≠ some id
  | _ => True

/-- The index leads to entries of the plan itself and to none that was demoted, and what it leads to is
the best. -/
structure Tidy (s : Selection) : Prop where
  fresh : s.scenarios.Fresh
  pointed : s.library.catalogue.Pointed
  listed : ∀ (planId : PlanId) (id : ScenarioId), s.library.planToScenario[planId]? = some id →
    id < s.scenarios.counter
  retired : ∀ id ∈ s.demoted, id < s.scenarios.counter ∧
    ∀ planId : PlanId, s.library.planToScenario[planId]? ≠ some id
  best : ∀ planId, s.library.catalogue.Best .template .recording planId

variable {s : Selection}

theorem Tidy.selecting (tidy : Tidy s) : Selecting s where
  best planId := (selectsBest_iff s.library planId).mpr (tidy.best planId)
  retired planId entry selected demoted := by
    obtain ⟨id, listed, held⟩ := Option.bind_eq_some_iff.mp selected
    obtain rfl := tidy.fresh.own id entry held
    exact (tidy.retired entry.id demoted).2 planId listed

/- One operation. -/

theorem Tidy.unused (tidy : Tidy s) : s.library.evict.catalogue.items s.scenarios.counter = none := by
  rw [catalogue_items, Option.map_eq_none_iff, Option.eq_none_iff_forall_ne_some]
  intro entry held
  have before := tidy.fresh.unused
  rw [getElem?_evict held] at before
  cases before

theorem Tidy.unlisted (tidy : Tidy s) (planId : PlanId) :
    s.library.evict.catalogue.index planId ≠ some s.scenarios.counter := by
  rw [catalogue_index, evict_planToScenario]
  intro listed
  exact Nat.lt_irrefl _ (tidy.listed planId _ listed)

theorem Tidy.pointed_evict (tidy : Tidy s) : s.library.evict.catalogue.Pointed := by
  rcases s.library.catalogue_evict with ⟨-, same⟩ | ⟨-, id, -, -, dropped⟩
  · rw [same]
    exact tidy.pointed
  · rw [dropped]
    exact tidy.pointed.drop id

theorem best_evict_iff (tidy : Tidy s) (plan : StoredPlan) :
    (∀ planId, planId ≠ plan.id → s.library.evict.catalogue.Best .template .recording planId) ↔
      (maxLibrarySize ≤ s.library.entries.size → ∀ id entry, s.library.oldest = some (id, entry) →
        s.library.planToScenario[entry.plan.id]? = some id → entry.plan.id ≠ plan.id →
          ¬s.library.evict.Has entry.plan.id .template ∧
            ¬s.library.evict.Has entry.plan.id .recording) := by
  simp only [← catalogue_holds]
  rcases s.library.catalogue_evict with ⟨room, same⟩ | ⟨full, id, entry, oldest, dropped⟩
  · rw [same]
    exact iff_of_true (fun planId _ => tidy.best planId) fun full => absurd full (Nat.not_le.mpr room)
  · rw [dropped]
    constructor
    · intro best _ id' entry' oldest' listed other
      obtain ⟨rfl, rfl⟩ := Prod.mk.inj (Option.some.inj (oldest.symm.trans oldest'))
      exact (Catalogue.best_drop (tidy.best _)).mp (best _ other) listed
    · intro none planId other
      refine (Catalogue.best_drop (tidy.best planId)).mpr fun listed => ?_
      have held := catalogue_held (getElem?_of_oldest oldest)
      obtain rfl : entry.plan.id = planId := tidy.pointed planId id _ listed held
      exact none full id entry oldest listed other

theorem best_add_iff (tidy : Tidy s) (kind : ScenarioKind) (plan : StoredPlan) (nowMs : Nat) :
    (∀ planId, (s.step (.add kind plan nowMs)).library.catalogue.Best .template .recording planId) ↔
      s.Fitting (.add kind plan nowMs) := by
  have view : (s.step (.add kind plan nowMs)).library.catalogue =
      s.library.evict.catalogue.put s.scenarios.counter plan.id kind := catalogue_add ..
  have own : (s.library.evict.catalogue.put s.scenarios.counter plan.id kind).Best .template
      .recording plan.id ↔ kind = .template ∨
        kind = .recording ∧ ¬s.library.evict.catalogue.Holds plan.id .template :=
    Catalogue.best_put_self tidy.unused
  rw [catalogue_holds] at own
  rw [view, Fitting, ← best_evict_iff tidy plan, ← own]
  constructor
  · intro best
    exact ⟨best plan.id, fun planId other =>
      (Catalogue.best_put_other tidy.unused tidy.unlisted other).mp (best planId)⟩
  · rintro ⟨new, others⟩ planId
    by_cases same : planId = plan.id
    · rw [same]
      exact new
    · exact (Catalogue.best_put_other tidy.unused tidy.unlisted same).mpr (others planId same)

theorem demote_cases (lib : ScenarioLibrary) (id : ScenarioId) :
    (∃ entry : ScenarioEntry, lib.entries[id]? = some entry ∧ entry.kind = .template ∧
        lib.demote id = (true, lib.setKind id .deprecated)) ∨
      (∀ entry : ScenarioEntry, lib.entries[id]? = some entry → entry.kind ≠ .template) ∧
        lib.demote id = (false, lib) := by
  unfold demote
  cases held : lib.entries[id]? with
  | none => exact .inr ⟨fun entry same => (by cases same), rfl⟩
  | some entry =>
    by_cases template : entry.kind = .template
    · exact .inl ⟨entry, rfl, template, if_pos template⟩
    · refine .inr ⟨fun entry' same => ?_, if_neg template⟩
      obtain rfl := Option.some.inj same
      exact template

theorem best_demote_iff (tidy : Tidy s) (id : ScenarioId) :
    (∀ planId, (s.step (.demote id)).library.catalogue.Best .template .recording planId) ↔
      s.Fitting (.demote id) := by
  change (∀ planId, (s.library.demote id).2.catalogue.Best .template .recording planId) ↔ _
  rcases demote_cases s.library id with ⟨entry, held, template, run⟩ | ⟨none, run⟩
  · have item := catalogue_held held
    have useless : ScenarioKind.deprecated ≠ .template ∧ ScenarioKind.deprecated ≠ .recording := by
      decide
    rw [run, catalogue_setKind]
    constructor
    · intro best entry' held' _
      obtain rfl := Option.some.inj (held.symm.trans held')
      exact (Catalogue.best_retag_useless (tidy.best _) useless item).mp (best _)
    · intro fitting planId
      refine (Catalogue.best_retag_useless (tidy.best planId) useless item).mpr fun listed => ?_
      obtain rfl : entry.plan.id = planId := tidy.pointed planId id _ listed item
      exact fitting entry held template listed
  · rw [run]
    exact iff_of_true tidy.best fun entry held template => absurd template (none entry held)

theorem promote_cases (lib : ScenarioLibrary) (planId : PlanId) :
    (∃ id entry, lib.planToScenario[planId]? = some id ∧ lib.entries[id]? = some entry ∧
        (lib.promoteIfReady planId).2 = lib.setKind entry.id .template) ∨
      (lib.promoteIfReady planId).2 = lib := by
  unfold promoteIfReady
  cases found : lib.lookup planId with
  | none => exact .inr rfl
  | some entry =>
    obtain ⟨id, listed, held⟩ := Option.bind_eq_some_iff.mp found
    dsimp only
    split
    · exact .inl ⟨id, entry, listed, held, rfl⟩
    · exact .inr rfl

theorem catalogue_promote (tidy : Tidy s) (planId : PlanId) :
    (∃ id, s.library.planToScenario[planId]? = some id ∧
        (s.library.promoteIfReady planId).2.catalogue = s.library.catalogue.retag id .template) ∨
      (s.library.promoteIfReady planId).2.catalogue = s.library.catalogue := by
  rcases promote_cases s.library planId with ⟨id, entry, listed, held, run⟩ | run
  · refine .inl ⟨id, listed, ?_⟩
    rw [run, tidy.fresh.own id entry held, catalogue_setKind]
  · exact .inr (congrArg catalogue run)

theorem best_step_iff (tidy : Tidy s) (op : ScenarioOp) :
    (∀ planId, (s.step op).library.catalogue.Best .template .recording planId) ↔ s.Fitting op := by
  cases op with
  | add kind plan nowMs => exact best_add_iff tidy kind plan nowMs
  | recordSuccess planId nowMs =>
    refine iff_of_true (fun other => ?_) trivial
    change (s.library.updateOutcome planId true nowMs).catalogue.Best _ _ other
    rw [catalogue_updateOutcome]
    exact tidy.best other
  | recordMiss planId nowMs =>
    refine iff_of_true (fun other => ?_) trivial
    change (s.library.updateOutcome planId false nowMs).catalogue.Best _ _ other
    rw [catalogue_updateOutcome]
    exact tidy.best other
  | promoteIfReady planId =>
    refine iff_of_true (fun other => ?_) trivial
    change (s.library.promoteIfReady planId).2.catalogue.Best _ _ other
    rcases catalogue_promote tidy planId with ⟨id, listed, view⟩ | view
    · rw [view]
      exact Catalogue.best_retag_first tidy.pointed (tidy.best other) listed
    · rw [view]
      exact tidy.best other
  | demote id => exact best_demote_iff tidy id
  | elsewhere => exact iff_of_true tidy.best trivial

theorem pointed_step (tidy : Tidy s) (op : ScenarioOp) : (s.step op).library.catalogue.Pointed := by
  cases op with
  | add kind plan nowMs =>
    change (s.library.add _ kind plan nowMs).catalogue.Pointed
    rw [catalogue_add]
    exact tidy.pointed_evict.put tidy.unlisted
  | recordSuccess planId nowMs =>
    change (s.library.updateOutcome planId true nowMs).catalogue.Pointed
    rw [catalogue_updateOutcome]
    exact tidy.pointed
  | recordMiss planId nowMs =>
    change (s.library.updateOutcome planId false nowMs).catalogue.Pointed
    rw [catalogue_updateOutcome]
    exact tidy.pointed
  | promoteIfReady planId =>
    change (s.library.promoteIfReady planId).2.catalogue.Pointed
    rcases catalogue_promote tidy planId with ⟨id, -, view⟩ | view
    · rw [view]
      exact tidy.pointed.retag id .template
    · rw [view]
      exact tidy.pointed
  | demote id =>
    change (s.library.demote id).2.catalogue.Pointed
    rcases demote_cases s.library id with ⟨-, -, -, run⟩ | ⟨-, run⟩
    · rw [run, catalogue_setKind]
      exact tidy.pointed.retag id .deprecated
    · rw [run]
      exact tidy.pointed
  | elsewhere => exact tidy.pointed

/-- An id that is listed after an operation is a new one, or was listed for the same plan before. -/
theorem listed_step (s : Selection) (op : ScenarioOp) {planId : PlanId} {id : ScenarioId}
    (listed : (s.step op).library.planToScenario[planId]? = some id) :
    id = s.scenarios.counter ∧ id < (s.step op).scenarios.counter ∨
      s.library.planToScenario[planId]? = some id := by
  rcases step_cases s.scenarios op with ⟨kind, plan, nowMs, rfl⟩ | ⟨-, same, -⟩
  · change (s.library.add _ kind plan nowMs).planToScenario[planId]? = some id at listed
    rw [add_planToScenario] at listed
    split at listed
    · obtain rfl := Option.some.inj listed
      exact .inl ⟨rfl, Nat.lt_succ_self _⟩
    · exact .inr listed
  · exact .inr (same.index ▸ listed)

theorem counter_step (s : Selection) (op : ScenarioOp) :
    s.scenarios.counter ≤ (s.step op).scenarios.counter := by
  rcases step_cases s.scenarios op with ⟨kind, plan, nowMs, rfl⟩ | ⟨-, -, later⟩
  · exact Nat.le_succ _
  · exact later

theorem demoted_step (tidy : Tidy s) {op : ScenarioOp} (fitting : s.Fitting op) :
    ∀ id ∈ (s.step op).demoted, id < s.scenarios.counter ∧
      ∀ planId : PlanId, s.library.planToScenario[planId]? ≠ some id := by
  intro id demoted
  cases op with
  | demote target =>
    rcases demote_cases s.library target with ⟨entry, held, template, run⟩ | ⟨-, run⟩
    · have more : (s.step (.demote target)).demoted = target :: s.demoted := by
        change (if (s.library.demote target).1 then target :: s.demoted else s.demoted) = _
        rw [run]
        rfl
      rw [more] at demoted
      rcases List.mem_cons.mp demoted with rfl | before
      · refine ⟨tidy.fresh.below id entry held, fun planId listed => ?_⟩
        obtain rfl : entry.plan.id = planId := tidy.pointed planId id _ listed (catalogue_held held)
        exact fitting entry held template listed
      · exact tidy.retired id before
    · have same : (s.step (.demote target)).demoted = s.demoted := by
        change (if (s.library.demote target).1 then target :: s.demoted else s.demoted) = _
        rw [run]
        rfl
      rw [same] at demoted
      exact tidy.retired id demoted
  | _ => exact tidy.retired id demoted

theorem Tidy.step (tidy : Tidy s) {op : ScenarioOp} (fitting : s.Fitting op) : Tidy (s.step op) where
  fresh := tidy.fresh.step op
  pointed := pointed_step tidy op
  listed planId id listed := by
    rcases listed_step s op listed with ⟨-, below⟩ | before
    · exact below
    · exact Nat.lt_of_lt_of_le (tidy.listed planId id before) (counter_step s op)
  retired id demoted := by
    obtain ⟨below, unlisted⟩ := demoted_step tidy fitting id demoted
    refine ⟨Nat.lt_of_lt_of_le below (counter_step s op), fun planId listed => ?_⟩
    rcases listed_step s op listed with ⟨rfl, -⟩ | before
    · exact Nat.lt_irrefl _ below
    · exact unlisted planId before
  best := (best_step_iff tidy op).mpr fitting

theorem tidy_new (counter : Nat) : Tidy (new counter) := by
  have empty (planId : PlanId) : (new counter).library.planToScenario[planId]? = none :=
    Std.TreeMap.getElem?_emptyc
  refine ⟨fresh_new counter, fun planId id e listed => ?_, fun planId id listed => ?_,
    fun id demoted => absurd demoted List.not_mem_nil, fun planId => ?_⟩
  · cases (empty planId).symm.trans listed
  · cases (empty planId).symm.trans listed
  · refine (selectsBest_iff _ planId).mp ⟨fun has => ?_, fun _ has => ?_, fun _ _ => ?_⟩
    · obtain ⟨id, entry, held, -⟩ := has
      cases Std.TreeMap.getElem?_emptyc.symm.trans held
    · obtain ⟨id, entry, held, -⟩ := has
      cases Std.TreeMap.getElem?_emptyc.symm.trans held
    · rw [select, lookup, empty, Option.bind_none]

/-- The best entry is selected all along a run, and none that was demoted, if and only if every
operation is a fitting one. -/
theorem selects_best_iff (counter : Nat) (ops : List ScenarioOp) :
    (∀ n, Selecting (Run.after step (new counter) (ops.take n))) ↔
      Run.Along step Fitting (new counter) ops := by
  refine Run.always_iff Tidy Selecting (fun s tidy => tidy.selecting)
    (fun s op tidy fitting => tidy.step fitting) (fun s op tidy unfit selecting => ?_)
    (tidy_new counter) ops
  exact unfit ((best_step_iff tidy op).mp fun planId => (selectsBest_iff _ planId).mp
    (selecting.best planId))

/-- A template that was demoted is what its plan still has, and a recording that comes behind a template
takes its place. -/
theorem demoted_is_selected :
    let demoted := Run.after step (new 1) [.add .template (emptyPlan 5) 0, .demote 1]
    let behind := Run.after step (new 1) [.add .template (emptyPlan 5) 0, .add .recording (emptyPlan 5) 0]
    ¬Selecting demoted ∧ ¬Selecting behind := by
  intro demoted behind
  constructor
  · intro selecting
    have selected : (demoted.library.select 5).map ScenarioEntry.id = some 1 := by decide +kernel
    obtain ⟨entry, found, same⟩ := Option.map_eq_some_iff.mp selected
    have listed : demoted.demoted = [1] := by decide +kernel
    refine selecting.retired 5 entry found ?_
    rw [listed, same]
    exact List.mem_singleton_self 1
  · intro selecting
    have selected : (behind.library.select 5).map ScenarioEntry.kind = some .recording := by
      decide +kernel
    have first : (behind.library.entries[1]?).map ScenarioLibrary.shown = some (5, .template) := by
      decide +kernel
    obtain ⟨entry, held, same⟩ := Option.map_eq_some_iff.mp first
    obtain ⟨entry', found, -, template⟩ := (selecting.best 5).template
      ⟨1, entry, held, congrArg Prod.fst same, congrArg Prod.snd same⟩
    rw [found, Option.map_some, template] at selected
    cases selected

end Selection
end HidConnect.Kernel
