import ModuleBundler.Build.Discover
import ModuleBundler.Proofs.Outcome

/-!
What holds of a discovery because it holds of its parts. Files are read and graphs are constructed by actions
one after the other, so that a relation which outlasts putting actions together holds of whole discoveries as
soon as it holds of what hooks do.
-/

namespace ModuleBundler

variable {σ τ : Type}

abbrev Related (σ τ : Type) : Type 1 :=
  ∀ ⦃α : Type⦄, EStateM BuildError σ α → EStateM BuildError τ α → Prop

/-- A relation that holds of actions that are put together when it holds of each of them. It need not hold of
calls that are nested too deeply. -/
structure Related.Composes (related : Related σ τ) : Prop where
  pure : ∀ {α : Type} (found : α), related (Pure.pure found) (Pure.pure found)
  throw : ∀ {α : Type} (error : BuildError), (∀ path, error ≠ .tooDeep path) →
    related (MonadExcept.throw error : EStateM BuildError σ α) (MonadExcept.throw error)
  bind : ∀ {α β : Type} {first : EStateM BuildError σ α} {other : EStateM BuildError τ α}
    {second : α → EStateM BuildError σ β} {continued : α → EStateM BuildError τ β},
    related first other → (∀ found, related (second found) (continued found)) →
      related (first >>= second) (other >>= continued)

theorem Related.Composes.forM {related : Related σ τ} (composes : related.Composes) {α : Type}
    {perform : α → EStateM BuildError σ PUnit} {opposite : α → EStateM BuildError τ PUnit}
    (each : ∀ one, related (perform one) (opposite one)) (all : List α) :
    related (all.forM perform) (all.forM opposite) := by
  induction all with
  | nil => exact composes.pure _
  | cons one rest ih => exact composes.bind (each one) fun _ => ih

def ImportHooks.asking (hooks : ImportHooks σ) (data : ResolveData) :
    EStateM BuildError σ (Option ExternalModule) := fun state =>
  let (answer, state) := hooks.factorize.ask data state
  .ok answer state

theorem TransformPipeline.apply_ne_tooDeep (pipeline : TransformPipeline)
    (registry : TransformRegistry) (path deep : Path) (source : String) :
    pipeline.apply registry path source ≠ .error (.tooDeep deep) := by
  unfold apply applyAll
  generalize (pipeline.matching path).reverse = names
  induction names generalizing source with
  | nil => exact nofun
  | cons name names ih =>
    intro failed
    rw [List.foldlM_cons] at failed
    cases applied : applyOne registry path name source with
    | ok code =>
      rw [applied] at failed
      exact ih code failed
    | error error =>
      rw [applied] at failed
      cases failed
      unfold applyOne at applied
      split at applied
      · cases applied
      · split at applied
        · cases applied
        · cases applied

namespace Discover

structure Setup.Counterpart (related : Related σ τ) (setup : Setup σ) (other : Setup τ) : Prop where
  disk : other.around.disk = setup.around.disk
  resolver : other.around.resolver = setup.around.resolver
  pipeline : other.pipeline = setup.pipeline
  transforms : other.transforms = setup.transforms
  shows : ∀ call, related (setup.around.hooks.requireCall.show call)
    (other.around.hooks.requireCall.show call)
  asks : ∀ data, related (setup.around.hooks.asking data) (other.around.hooks.asking data)

namespace Setup.Counterpart

variable {related : Related σ τ} {setup : Setup σ} {other : Setup τ}
  (counterpart : Counterpart related setup other) (composes : related.Composes)
include counterpart composes

theorem resolve (module : Path) (request : String) :
    related (Import.resolve setup.around module request)
      (Import.resolve other.around module request) := by
  unfold Import.resolve
  rw [counterpart.disk, counterpart.resolver]
  refine composes.bind (counterpart.shows _) fun _ => composes.bind (counterpart.asks _) fun answer => ?_
  cases answer with
  | some provided => exact composes.pure _
  | none =>
    dsimp only
    cases found : setup.around.resolver.resolve? setup.around.disk request
        (module.parent?.getD ⟨"."⟩) with
    | some path =>
      rw [Resolver.resolve_of_some found]
      exact composes.pure _
    | none =>
      rw [Resolver.resolve_of_none found]
      exact composes.throw _ nofun

theorem resolveSites (module : Path) (source : List Char) (sites : List Script.CallSite) :
    related (Import.resolveSites setup.around module source sites)
      (Import.resolveSites other.around module source sites) := by
  induction sites with
  | nil => exact composes.pure []
  | cons site sites ih =>
    unfold Import.resolveSites
    refine composes.bind ?_ fun first => composes.bind ih fun others => composes.pure _
    unfold Import.resolveSite
    split
    · exact composes.bind (counterpart.resolve composes module _) fun _ => composes.pure _
    · exact composes.throw _ nofun

theorem extract (source : String) (module : Path) :
    related (Import.extract setup.around source module)
      (Import.extract other.around source module) := by
  unfold Import.extract
  split
  · exact composes.throw _ nofun
  · refine composes.bind (counterpart.resolveSites composes module _ _) fun resolved => ?_
    dsimp only
    split
    · exact composes.pure _
    · exact composes.throw _ nofun

theorem load (path : Path) : related (Discover.load setup path) (Discover.load other path) := by
  unfold Discover.load
  rw [counterpart.disk, counterpart.pipeline, counterpart.transforms]
  split
  · exact composes.throw _ nofun
  · split
    · rename_i failed
      refine composes.throw _ fun deep same => ?_
      rw [same] at failed
      exact TransformPipeline.apply_ne_tooDeep _ _ _ _ _ failed
    · exact counterpart.extract composes _ path

end Setup.Counterpart

/-- A relation for what is done beside a graph: it holds of what the graph has no part in as another one does,
and of what is done to the graph alone. -/
structure Beside (related : Related σ τ) (beside : Related (ModuleGraph × σ) (ModuleGraph × τ)) :
    Prop where
  composes : beside.Composes
  tooDeep : ∀ path, beside (MonadExcept.throw (.tooDeep path) : Discovery σ String)
    (MonadExcept.throw (.tooDeep path))
  aside : ∀ {α : Type} {action : EStateM BuildError σ α} {other : EStateM BuildError τ α},
    related action other → beside (aside action) (aside other)
  graph : beside graph graph
  changeGraph : ∀ change, beside (changeGraph change) (changeGraph change)

theorem Beside.addExternal {related : Related σ τ}
    {beside : Related (ModuleGraph × σ) (ModuleGraph × τ)} (besides : Beside related beside)
    (entry id : String) (provided : ExternalModule) :
    beside (Discover.addExternal entry id provided) (Discover.addExternal entry id provided) := by
  unfold Discover.addExternal
  refine besides.composes.bind besides.graph fun graph => ?_
  split
  · exact besides.changeGraph _
  · exact besides.changeGraph _

theorem Setup.Counterpart.addModule {related : Related σ τ}
    {beside : Related (ModuleGraph × σ) (ModuleGraph × τ)} {setup : Setup σ} {other : Setup τ}
    (counterpart : Counterpart related setup other) (composes : related.Composes)
    (besides : Beside related beside) (entry : String) (depth : Nat) (path : Path) :
    beside (Discover.addModule setup entry depth path) (Discover.addModule other entry depth path) := by
  have whole := besides.composes
  induction depth generalizing path with
  | zero => exact besides.tooDeep path
  | succ depth ih =>
    unfold Discover.addModule
    rw [counterpart.resolver]
    refine whole.bind besides.graph fun graph => ?_
    split
    · exact whole.bind (besides.changeGraph _) fun _ => whole.pure _
    · refine whole.bind (besides.aside (counterpart.load composes path)) fun extracted => ?_
      refine whole.bind (besides.changeGraph _) fun _ =>
        whole.bind (whole.forM (fun need => ?_) _) fun _ => whole.pure _
      cases need.target with
      | file path => exact whole.bind (ih path) fun _ => whole.pure _
      | external provided => exact besides.addExternal entry need.id provided

end Discover

end ModuleBundler
