import Querywright.Proofs.OwnedConnections
import Querywright.Proofs.RoundRobin

/-! What a router is made of. Its pools have the addresses of its configuration, one each and in
order, from when it is made and through every call; closing it closes all that is idle there. -/
namespace Querywright

variable {σ : Type}

namespace Pool

variable (engine : Engine σ) (pool : Pool) (world : World σ)

theorem openConnection_source : (openConnection engine pool world).2.1.source = pool.source := by
  have attempted := openConnection_attempted engine pool world
  generalize openConnection engine pool world = outcome at attempted ⊢
  cases attempted <;> rfl

theorem checkout_source : (checkout engine pool world).2.1.source = pool.source := by
  unfold checkout
  split
  · split
    · rfl
    · exact openConnection_source engine pool world
  · exact openConnection_source engine _ _

theorem checkin_source (connection : Nat) (discarded : Bool) :
    (checkin engine connection discarded pool world).1.source = pool.source := by
  unfold checkin
  split <;> rfl

theorem notice_source (fault : Fault) : (notice fault pool world).1.source = pool.source := by
  unfold notice
  split <;> rfl

theorem run_source (connection : Nat) (statement parameters : Value) :
    (run engine connection statement parameters pool world).2.1.source = pool.source := by
  unfold run
  split
  · exact notice_source pool world _
  · split
    · rfl
    · split
      · exact notice_source pool _ _
      · rfl
      · rfl

theorem execute_source (statement parameters : Value) :
    (execute engine statement parameters pool world).2.1.source = pool.source := by
  have taking := checkout_source engine pool world
  unfold execute
  generalize pool.checkout engine world = taken at taking ⊢
  obtain ⟨result, pool', world'⟩ := taken
  cases result with
  | error reason => exact taking
  | ok connection =>
    have running := run_source engine pool' world' connection statement parameters
    exact ((checkin_source engine _ _ connection false).trans running).trans taking

theorem ping_source : (ping engine pool world).2.1.source = pool.source := by
  have executing := execute_source engine pool world (.text "SELECT 1") (.tuple [])
  unfold ping
  generalize pool.execute engine (.text "SELECT 1") (.tuple []) world = outcome at executing ⊢
  obtain ⟨result, pool', world'⟩ := outcome
  cases result <;> exact executing

end Pool

def Configuration.sources (side : Side) (configuration : Configuration) : List Source :=
  match side with
  | .primary => configuration.primaries
  | .replica => configuration.replicas

namespace Router

def sources (side : Side) (router : Router) : List Source :=
  (router.pools side).map Pool.source

/-- A router of a configuration: it has the settings, and a pool for every address in order. -/
structure IsBuiltFrom (configuration : Configuration) (router : Router) : Prop where
  settings : router.configuration = configuration
  sources : ∀ side, router.sources side = configuration.sources side

/-- Two states of a router with one configuration and the same addresses. -/
structure SameSources (before after : Router) : Prop where
  configuration : after.configuration = before.configuration
  sources : ∀ side, after.sources side = before.sources side

variable {before between after router : Router} {place : Place}

theorem SameSources.refl (router : Router) : SameSources router router :=
  ⟨rfl, fun _ => rfl⟩

theorem SameSources.trans (first : SameSources before between)
    (second : SameSources between after) : SameSources before after :=
  ⟨second.configuration.trans first.configuration,
    fun side => (second.sources side).trans (first.sources side)⟩

theorem IsBuiltFrom.of_same {configuration : Configuration} (built : before.IsBuiltFrom configuration)
    (same : SameSources before after) : after.IsBuiltFrom configuration :=
  ⟨same.configuration.trans built.settings,
    fun side => (same.sources side).trans (built.sources side)⟩

theorem replace_sources {old pool : Pool} (there : router.pool? place = some old)
    (source : pool.source = old.source) : SameSources router (router.replace place pool) := by
  constructor
  · obtain ⟨side, index⟩ := place
    cases side <;> rfl
  · intro side
    unfold sources
    rw [pools_replace]
    split
    · rename_i same
      subst same
      obtain ⟨inside, rfl⟩ := List.getElem?_eq_some_iff.mp there
      have within : place.index < ((router.pools place.side).map Pool.source).length := by
        rwa [List.length_map]
      have entry : (router.pools place.side)[place.index].source =
          ((router.pools place.side).map Pool.source)[place.index] := (List.getElem_map _).symm
      rw [List.map_set, source, entry, List.set_getElem_self]
    · rfl

theorem act_sources {α : Type} (place : Place)
    {action : Pool → World σ → Except Error α × Pool × World σ}
    (kept : ∀ pool world, (action pool world).2.1.source = pool.source) (router : Router)
    (world : World σ) : SameSources router (router.act place action world).2.1 := by
  cases there : router.pool? place with
  | none =>
    rw [act_of_none action world there]
    exact .refl router
  | some pool =>
    rw [act_of_pool? action world there]
    exact replace_sources there (kept pool world)

theorem actAll_sources {action : Pool → World σ → Except Error Unit × Pool × World σ}
    (kept : ∀ pool world, (action pool world).2.1.source = pool.source) (places : List Place)
    (router : Router) (world : World σ) :
    SameSources router (actAll action places router world).2.1 := by
  induction places generalizing router world with
  | nil => exact .refl router
  | cons place rest ih =>
    have first := act_sources place kept router world
    unfold actAll
    generalize router.act place action world = outcome at first ⊢
    obtain ⟨result, acted, left⟩ := outcome
    cases result with
    | error reason => exact first
    | ok done => exact first.trans (ih acted left)

theorem dispatch_sources (side : Side) (router : Router) :
    SameSources router (router.dispatch side).2 := by
  cases side <;> exact ⟨rfl, fun other => by cases other <;> rfl⟩

variable (engine : Engine σ) (router) (world : World σ)

theorem giveBack_sources (place : Place) (connection : Nat) (discarded : Bool) :
    SameSources router (router.giveBack engine place connection discarded world).1 := by
  show SameSources router (router.act place (fun pool world =>
    ((.ok () : Except Error Unit), pool.checkin engine connection discarded world)) world).2.1
  exact act_sources place
    (fun pool world => pool.checkin_source engine world connection discarded) router world

theorem ping_sources : SameSources router (router.ping engine world).2.1 :=
  actAll_sources (fun pool world => pool.ping_source engine world) router.places router world

theorem close_sources : SameSources router (router.close engine world).1 :=
  actAll_sources (fun _ _ => rfl) router.places router world

theorem lend_sources (writes : Bool) :
    SameSources router (router.lend engine writes world).2.1 :=
  (dispatch_sources _ router).trans
    (act_sources _ (fun pool world => pool.checkout_source engine world) _ world)

theorem execute_sources (statement parameters : Value) :
    SameSources router (router.execute engine statement parameters world).2.1 := by
  unfold execute select
  cases isWriting statement with
  | error reason => exact .refl router
  | ok writes =>
    have turned := dispatch_sources (router.sideFor writes) router
    dsimp only
    cases parameters.items with
    | error reason => exact turned
    | ok values =>
      exact turned.trans (act_sources _
        (fun pool world => pool.execute_source engine world statement parameters) _ world)

theorem sources_frame : IsFrame engine SameSources where
  refl := .refl
  trans := .trans
  run := fun place connection statement parameters => act_sources place
    fun pool world => pool.run_source engine world connection statement parameters
  giveBack := fun place connection discarded router world =>
    router.giveBack_sources engine world place connection discarded

end Router

namespace RouterCall

variable (engine : Engine σ) (router : Router) (world : World σ)

theorem perform_sources (call : RouterCall) :
    router.SameSources (call.perform engine router world).1 := by
  cases call with
  | execute statement parameters => exact router.execute_sources engine world statement parameters
  | begin =>
    exact (router.lend_sources engine world true).trans
      ((Router.sources_frame engine).begin router world)
  | lend writes => exact router.lend_sources engine world writes
  | giveBack place connection discarded =>
    exact router.giveBack_sources engine world place connection discarded
  | within transaction statement parameters =>
    exact (Router.sources_frame engine).within transaction statement parameters router world
  | finish transaction ending =>
    exact (Router.sources_frame engine).finish transaction ending router world
  | ping => exact router.ping_sources engine world
  | close => exact router.close_sources engine world
  | reconnect =>
    exact (router.close_sources engine world).trans (Router.ping_sources _ engine _)

end RouterCall

namespace Router

theorem make_built {engine : Engine σ} {configuration : Configuration} {world opened : World σ}
    {router : Router} (made : Router.make engine configuration world = (.ok router, opened)) :
    router.IsBuiltFrom configuration := by
  obtain ⟨primaries, replicas, asked, first, second, answered⟩ := make_success made
  have pinged := ping_sources
    { configuration := configuration, primaries := primaries, replicas := replicas } engine asked
  rw [answered] at pinged
  have started : IsBuiltFrom configuration
      { configuration := configuration, primaries := primaries, replicas := replicas } := by
    refine ⟨rfl, fun side => ?_⟩
    cases side with
    | primary => exact first
    | replica => exact second
  exact started.of_same pinged

theorem pool?_of_mem_places {router : Router} {place : Place} (member : place ∈ router.places) :
    ∃ pool, router.pool? place = some pool := by
  unfold places at member
  obtain primary | replica := List.mem_append.mp member
  · obtain ⟨index, inside, rfl⟩ := List.mem_map.mp primary
    exact ⟨_, List.getElem?_eq_getElem (List.mem_range.mp inside)⟩
  · obtain ⟨index, inside, rfl⟩ := List.mem_map.mp replica
    exact ⟨_, List.getElem?_eq_getElem (List.mem_range.mp inside)⟩

/-- Closing the pools of some places: nothing is idle there behind it, and what was is closed. -/
theorem actAll_shut (engine : Engine σ) (places : List Place) (router : Router) (world : World σ)
    (peopled : ∀ place ∈ places, ∃ pool, router.pool? place = some pool) :
    let shut := actAll (fun pool world => (.ok (), pool.close engine world)) places router world
    (∀ place, shut.2.1.idleAt place = if place ∈ places then [] else router.idleAt place) ∧
      (∀ place ∈ places, ∀ connection ∈ router.idleAt place, connection ∈ shut.2.2.closed) ∧
      ∀ connection ∈ world.closed, connection ∈ shut.2.2.closed := by
  induction places generalizing router world with
  | nil => exact ⟨fun place => by simp [actAll], by simp, fun connection member => member⟩
  | cons first rest ih =>
    obtain ⟨pool, there⟩ := peopled first (by simp)
    have passage := world.discard_passes engine pool.idle
    intro shut
    have step : shut = actAll (fun pool world => (.ok (), pool.close engine world)) rest
        (router.replace first { pool with idle := [] }) (world.discard engine pool.idle) := by
      show actAll _ (first :: rest) router world = _
      rw [actAll, act_of_pool? _ _ there]
      rfl
    obtain ⟨idle, closed, still⟩ := ih (router.replace first { pool with idle := [] })
      (world.discard engine pool.idle) (by
        intro place member
        obtain ⟨other, found⟩ := peopled place (by simp [member])
        rw [pool?_replace _ there]
        split
        · exact ⟨_, rfl⟩
        · exact ⟨other, found⟩)
    rw [← step] at idle closed still
    refine ⟨?_, ?_, fun connection member => still connection (passage.still_closed member)⟩
    · intro place
      rw [idle, idleAt_replace _ there]
      by_cases here : place = first
      · simp [here]
      · simp [here]
    · intro place member connection waiting
      by_cases here : place = first
      · subst here
        rw [idleAt_of_pool? there] at waiting
        exact still connection (passage.closed_of_mem waiting)
      · refine closed place ((List.mem_cons.mp member).resolve_left here) connection ?_
        rw [idleAt_replace _ there, if_neg here]
        exact waiting

theorem close_shut (engine : Engine σ) (router : Router) (world : World σ) :
    (router.close engine world).1.idle = [] ∧
      ∀ entry ∈ router.idle, entry.2 ∈ (router.close engine world).2.closed := by
  obtain ⟨idle, closed, -⟩ := actAll_shut engine router.places router world
    fun place member => pool?_of_mem_places member
  constructor
  · refine List.eq_nil_iff_forall_not_mem.mpr ?_
    rintro ⟨place, connection⟩ member
    have waiting : connection ∈ (router.close engine world).1.idleAt place := mem_idle.mp member
    rw [show (router.close engine world).1.idleAt place = _ from idle place] at waiting
    split at waiting
    · cases waiting
    · rename_i outside
      cases there : router.pool? place with
      | none => simp [idleAt, there] at waiting
      | some pool => exact outside (mem_places there)
  · rintro ⟨place, connection⟩ member
    have waiting := mem_idle.mp member
    cases there : router.pool? place with
    | none => simp [idleAt, there] at waiting
    | some pool => exact closed place (mem_places there) connection waiting

end Router
end Querywright
