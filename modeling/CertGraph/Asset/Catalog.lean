import CertGraph.Asset.Basic

/- Catalogs: how to make the asset of each key. -/
set_option autoImplicit false
set_option relaxedAutoImplicit false

namespace CertGraph

variable {σ ε : Type}

/-- Makes an asset, or fails; an application may keep count of what it has made. -/
abbrev Factory (σ ε : Type) := σ → Except Failure (Asset σ ε) × σ

/-- A factory that makes the same asset every time. -/
def Factory.always (asset : Asset σ ε) : Factory σ ε :=
  fun app => (.ok asset, app)

/-- Factories under distinct keys, in the order of registration. -/
structure Catalog (σ ε : Type) where
  entries : List (String × Factory σ ε)
  nodup : (entries.map Prod.fst).Nodup

namespace Catalog

/-- No factory at all. -/
def empty : Catalog σ ε := ⟨[], List.nodup_nil⟩

/-- The keys, in order. -/
def keys (catalog : Catalog σ ε) : List String :=
  catalog.entries.map Prod.fst

/-- Whether a key is registered. -/
def has (catalog : Catalog σ ε) (key : String) : Bool :=
  catalog.keys.contains key

/-- The catalog with one more factory; its key may not be registered yet. -/
def register (catalog : Catalog σ ε) (key : String) (factory : Factory σ ε) :
    Except ConfigurationFault (Catalog σ ε) :=
  if present : key ∈ catalog.keys then .error (.alreadyRegistered key)
  else
    .ok ⟨catalog.entries ++ [(key, factory)], by
      rw [List.map_append, List.nodup_append]
      refine ⟨catalog.nodup, by simp, ?_⟩
      intro old isOld new isNew same
      have : new = key := by simpa using isNew
      exact present (this ▸ same ▸ isOld)⟩

/-- Make the asset of a key, which has to come with that key. -/
def create (catalog : Catalog σ ε) (key : String) : Work σ (Asset σ ε) :=
  match catalog.entries.lookup key with
  | none => Work.fail (.unknownAsset key)
  | some factory => fun workshop =>
    let (made, app) := factory workshop.app
    match made with
    | .error failure => .error failure { workshop with app }
    | .ok asset =>
      if asset.key = key then .ok asset { workshop with app }
      else .error (.configuration (.factoryMismatch key asset.key)) { workshop with app }

end Catalog

end CertGraph
