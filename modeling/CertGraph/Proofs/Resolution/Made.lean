import CertGraph.Proofs.Resolution.Calls

/- Recorded assets: each was made by the factory of its key, and holds what its generation gave. -/
set_option autoImplicit false
set_option relaxedAutoImplicit false

namespace CertGraph

variable {σ ε : Type}

/-- What the factory of a key can make that has the key. -/
def Catalog.Makes (catalog : Catalog σ ε) (key : String) (asset : Asset σ ε) : Prop :=
  asset.key = key ∧
    ∃ factory app, catalog.entries.lookup key = some factory ∧ (factory app).1 = .ok asset

theorem Catalog.makes_of_create {catalog : Catalog σ ε} {key : String} {asset : Asset σ ε}
    {workshop after : Workshop σ}
    (created : (catalog.create key).outcome workshop = (.ok asset, after)) :
    catalog.Makes key asset := by
  obtain ⟨factory, found, made, same, -⟩ := create_ok created
  exact ⟨same, factory, _, found, made⟩

/-- A task is about a key, or about an asset that the factory of its key makes. -/
def Task.Declared (catalog : Catalog σ ε) : Task σ ε → Prop
  | .target (.key _) => True
  | .target (.asset asset) => catalog.Makes asset.key asset
  | .finish asset _ => catalog.Makes asset.key asset

theorem Task.declared_of_create {catalog : Catalog σ ε} {key : String} {asset : Asset σ ε}
    {workshop after : Workshop σ}
    (created : (catalog.create key).outcome workshop = (.ok asset, after)) :
    (Task.target (.asset asset)).Declared catalog := by
  have makes := Catalog.makes_of_create created
  obtain rfl := makes.1
  exact makes

/-- What the generation of an asset can give. -/
def Asset.Yields (asset : Asset σ ε) (product : Product ε) : Prop :=
  ∃ parents workshop after, (asset.generate parents).outcome workshop = (.ok product, after)

/-- Every recorded asset was made by the factory of its key, and holds what its generation gave. -/
def Session.Made (catalog : Catalog σ ε) (session : Session σ ε) : Prop :=
  ∀ key node, session.executor.parents.get? key = some node →
    ∃ asset, catalog.Makes key asset ∧ node = asset.holding node.product ∧
      asset.Yields node.product

theorem Session.made_fresh (catalog : Catalog σ ε) (workshop : Workshop σ) :
    (Session.fresh workshop : Session σ ε).Made catalog := by
  rintro _ _ ⟨⟩

/-- Recording what was generated of an asset that the factory of its key makes. -/
private theorem Session.Made.keeping {catalog : Catalog σ ε} {session : Session σ ε} {asset : Asset σ ε}
    {product : Product ε} (made : session.Made catalog) (makes : catalog.Makes asset.key asset)
    (yields : asset.Yields product) : (session.keeping (asset.holding product)).Made catalog := by
  intro key node known
  rcases Parents.get?_concat_cases known with old | ⟨rfl, rfl⟩
  · exact made key node old
  · exact ⟨asset, makes, rfl, yields⟩

namespace Runs

variable {catalog : Catalog σ ε} {task : Task σ ε} {session after : Session σ ε}
  {result : Except Failure (Node ε)}

/-- Whatever a run comes to, recorded assets were made by the factories of their keys. -/
theorem made_of_declared (run : Runs catalog task session result after)
    (declared : task.Declared catalog) (made : session.Made catalog) : after.Made catalog := by
  induction run with
  | reuseKey known => exact made
  | reuseAsset known => exact made
  | uncreated absent created => exact made
  | created absent created rest ih => exact ih (Task.declared_of_create created) made
  | cycle absent stacked => exact made
  | visited absent unstacked rest ih => exact ih declared made
  | fetched first rest ihFirst ihRest => exact ihRest declared (ihFirst trivial made)
  | unfetched first ih => exact ih trivial made
  | broken failed => exact made
  | @made asset product session workshop generated =>
    have middle : ({ session.starting asset with workshop }.noted
        (.finished asset.key)).pop.Made catalog := made
    exact middle.keeping declared ⟨_, _, _, generated⟩

end Runs

namespace Resolution

/-- After any calls for keys, whatever came of each, recorded assets were made by the factories of
their keys. -/
theorem callAll_made (catalog : Catalog σ ε) (workshop : Workshop σ) (targets : List String) :
    (callAll catalog (targets.map .key) (.fresh workshop)).Made catalog := by
  refine (callAll_induction _ (Session.Idle.fresh workshop) (Session.made_fresh catalog workshop)
    ?_).2
  intro target member session idle made
  obtain ⟨key, -, rfl⟩ := List.mem_map.mp member
  exact (call_runs (.key key) idle).made_of_declared trivial made

end Resolution

end CertGraph
