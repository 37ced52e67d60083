import CertGraph.Proofs.Certificate.RoundTrip
import CertGraph.Proofs.Resolution.Products

/- Which certificates a bundle holds: those of the authorities under its keys, and those that their files
go on with. -/
set_option autoImplicit false
set_option relaxedAutoImplicit false

namespace CertGraph

variable {σ ε : Type}

/-- What a factory makes under its key, and what is asked for as an asset at hand. -/
def Catalog.Offers (catalog : Catalog σ ε) (targets : List (Target σ ε)) (asset : Asset σ ε) : Prop :=
  catalog.Makes asset.key asset ∨ .asset asset ∈ targets

/-- A task is about a key, or about an asset on offer. -/
def Task.Offered (catalog : Catalog σ ε) (targets : List (Target σ ε)) : Task σ ε → Prop
  | .target (.key _) => True
  | .target (.asset asset) => catalog.Offers targets asset
  | .finish asset _ => catalog.Offers targets asset

/-- Every recorded asset was on offer, and was generated from some that are recorded still. -/
def Session.Sourced (catalog : Catalog σ ε) (targets : List (Target σ ε)) (session : Session σ ε) :
    Prop :=
  ∀ key node, session.executor.parents.get? key = some node →
    ∃ asset parents workshop after, catalog.Offers targets asset ∧ asset.key = key ∧
      node = asset.holding node.product ∧ parents.Within session.executor.parents ∧
      outcome (asset.generate parents) workshop = (.ok node.product, after)

namespace Runs

variable {catalog : Catalog σ ε} {targets : List (Target σ ε)} {task : Task σ ε}
  {session after : Session σ ε} {result : Except Failure (Node ε)}

/-- Whatever a run comes to, recorded assets are sourced. -/
theorem sourced (run : Runs catalog task session result after) (offered : task.Offered catalog targets)
    (sourced : session.Sourced catalog targets) : after.Sourced catalog targets := by
  induction run with
  | reuseKey known => exact sourced
  | reuseAsset known => exact sourced
  | uncreated absent created => exact sourced
  | created absent created rest ih =>
    have makes := Catalog.makes_of_create created
    obtain rfl := makes.1
    exact ih (.inl makes) sourced
  | cycle absent stacked => exact sourced
  | visited absent unstacked rest ih => exact ih offered sourced
  | fetched first rest ihFirst ihRest => exact ihRest offered (ihFirst trivial sourced)
  | unfetched first ih => exact ih trivial sourced
  | broken failed => exact sourced
  | @made asset product session workshop generated =>
    have run : Runs catalog (.finish asset []) session _ _ := .made generated
    have within : session.executor.parents.Within _ := fun key node known => run.grown.get? known
    intro key node known
    rcases Parents.get?_concat_cases known with old | ⟨rfl, rfl⟩
    · obtain ⟨other, parents, before, later, offeredToo, own, holds, earlier, generatedToo⟩ :=
        sourced key node old
      exact ⟨other, parents, before, later, offeredToo, own, holds,
        fun key node known => within key node (earlier key node known), generatedToo⟩
    · rw [Work.outcome_eq] at generated
      exact ⟨asset, session.executor.parents, _, _, offered, rfl, rfl, within, generated⟩

end Runs

namespace Resolution

/-- After any calls, for keys or for assets at hand, and whatever came of each, recorded assets are
sourced. -/
theorem callAll_sourced (catalog : Catalog σ ε) (workshop : Workshop σ)
    (targets : List (Target σ ε)) :
    (callAll catalog targets (.fresh workshop)).Sourced catalog targets := by
  refine (callAll_induction targets (Session.Idle.fresh workshop) ?_ ?_).2
  · rintro _ _ ⟨⟩
  · intro target member session idle sourced
    refine (call_runs target idle).sourced ?_ sourced
    cases target with
    | key key => trivial
    | asset asset => exact .inr member

end Resolution

/-- The asset is signed, and its file is to go on with the certificate of its issuer. -/
def Asset.AppendsParent : Asset σ ε → Prop
  | .signed declared => declared.policy = .appendParent
  | _ => False

/-- What the file of an authority goes on with after its own certificate: the certificate of its issuer
if that is asked for, and else nothing. -/
inductive Asset.Appends (parents : Parents ε) : Asset σ ε → List Certificate → Prop
  | nothing {asset : Asset σ ε} (unasked : ¬ asset.AppendsParent) : Appends parents asset []
  | parent {declared : Signed ε} {issuer : Authority} (asked : declared.policy = .appendParent)
      (known : parents.authorityOf declared.issuer = .ok issuer) :
      Appends parents (.signed declared) [issuer.pair.certificate]

namespace Asset

variable {asset : Asset σ ε} {parents more : Parents ε} {appended : List Certificate}

theorem Appends.mono (appends : asset.Appends parents appended) (within : parents.Within more) :
    asset.Appends more appended := by
  cases appends with
  | nothing unasked => exact .nothing unasked
  | parent asked known => exact .parent asked (within.authorityOf known)

private theorem Appends.eq_nil_iff (appends : asset.Appends parents appended) :
    appended = [] ↔ ¬ asset.AppendsParent := by
  cases appends with
  | nothing unasked => exact iff_of_true rfl unasked
  | parent asked known => exact iff_of_false nofun fun unasked => unasked asked

variable {product : Product ε} {workshop after : Workshop σ}

/-- The file of an authority that was generated: its certificate, and what is appended to that. -/
private theorem exists_appends {holder : Authority}
    (generated : outcome (asset.generate parents) workshop = (.ok product, after))
    (holds : product.authority? = some holder) :
    ∃ appended, asset.Appends parents appended ∧
      holder.pair.certPem = (holder.pair.certificate :: appended).flatMap Certificate.pem := by
  cases asset with
  | installConfig config =>
    cases generated
    cases holds
  | selfSigned declared =>
    obtain ⟨spec, first, read, generated⟩ := outcome_bind_ok generated
    obtain ⟨issued, second, issuing, generated⟩ := outcome_bind_ok generated
    cases generated
    cases holds
    obtain ⟨-, key, certificate, -, -, -, -, -, same⟩ := issueSelfSigned_built issuing
    refine ⟨[], .nothing id, ?_⟩
    rw [same, List.flatMap_singleton]
    rfl
  | signed declared =>
    obtain ⟨issuer, first, found, generated⟩ := outcome_bind_ok generated
    obtain ⟨spec, second, read, generated⟩ := outcome_bind_ok generated
    obtain ⟨made, third, issuing, generated⟩ := outcome_bind_ok generated
    cases generated
    have known : parents.authorityOf declared.issuer = .ok issuer := Work.ofExcept_ok found
    obtain ⟨-, -, written, -⟩ := issueWith_ok issuing
    cases made with
    | leaf pair => cases holds
    | authority other =>
      cases holds
      by_cases asked : declared.policy = .appendParent
      · rw [if_pos asked] at written
        refine ⟨[issuer.pair.certificate], .parent asked known, written.trans ?_⟩
        rw [List.flatMap_cons, List.flatMap_singleton]
        rfl
      · rw [if_neg asked, List.append_nil] at written
        refine ⟨[], .nothing asked, written.trans ?_⟩
        rw [List.flatMap_singleton]
        rfl
  | bundle declared =>
    obtain ⟨members, first, found, generated⟩ := outcome_bind_ok generated
    obtain ⟨bundle, second, made, generated⟩ := outcome_bind_ok generated
    cases generated
    cases holds
  | custom declared =>
    obtain ⟨⟨files, artifact⟩, first, made, generated⟩ := outcome_bind_ok generated
    cases generated
    cases holds

/-- A bundle was generated by an asset that declares one, from the files of the authorities declared. -/
theorem generate_bundle {bundle : Bundle}
    (generated : outcome (asset.generate parents) workshop = (.ok (.bundle (some bundle)), after)) :
    ∃ declared holders, asset = .bundle declared ∧
      List.Forall₂ (fun key holder => parents.authorityOf key = .ok holder) declared.authorities
        holders ∧
      bundle.data = holders.flatMap fun holder => holder.pair.certPem := by
  cases asset with
  | installConfig config => cases generated
  | selfSigned declared =>
    obtain ⟨spec, first, read, generated⟩ := outcome_bind_ok generated
    obtain ⟨issued, second, issuing, generated⟩ := outcome_bind_ok generated
    cases generated
  | signed declared =>
    obtain ⟨issuer, first, found, generated⟩ := outcome_bind_ok generated
    obtain ⟨spec, second, read, generated⟩ := outcome_bind_ok generated
    obtain ⟨made, third, issuing, generated⟩ := outcome_bind_ok generated
    cases generated
  | bundle declared =>
    obtain ⟨members, first, found, generated⟩ := outcome_bind_ok generated
    obtain ⟨made, second, aggregated, generated⟩ := outcome_bind_ok generated
    cases generated
    exact ⟨declared, members, rfl, Parents.authorities_ok (Work.ofExcept_ok found),
      (aggregateBundle_ok aggregated).2⟩
  | custom declared =>
    obtain ⟨⟨files, artifact⟩, first, made, generated⟩ := outcome_bind_ok generated
    cases generated

end Asset

/-- An authority in a bundle: its asset, what that holds, and the certificates that its file goes on with
after its own. -/
structure Member (σ ε : Type) where
  asset : Asset σ ε
  holder : Authority
  appended : List Certificate

/-- The certificates in the file of a member. -/
def Member.certificates (member : Member σ ε) : List Certificate :=
  member.holder.pair.certificate :: member.appended

/-- The member that is recorded under a key, and on offer. -/
structure Member.Under (catalog : Catalog σ ε) (targets : List (Target σ ε)) (parents : Parents ε)
    (key : String) (member : Member σ ε) : Prop where
  offered : catalog.Offers targets member.asset
  own : member.asset.key = key
  recorded : ∃ product, parents.get? key = some (member.asset.holding product)
  holds : parents.authorityOf key = .ok member.holder
  appends : member.asset.Appends parents member.appended
  file : member.holder.pair.certPem = member.certificates.flatMap Certificate.pem

namespace Session.Sourced

variable {catalog : Catalog σ ε} {targets : List (Target σ ε)} {session : Session σ ε}

private theorem exists_under (sourced : session.Sourced catalog targets) {key : String}
    {holder : Authority}
    (known : session.executor.parents.authorityOf key = .ok holder) :
    ∃ member : Member σ ε, member.holder = holder ∧
      member.Under catalog targets session.executor.parents key := by
  obtain ⟨node, recorded, holds⟩ := Parents.authorityOf_ok.mp known
  obtain ⟨asset, parents, workshop, after, offered, own, same, within, generated⟩ :=
    sourced key node recorded
  obtain ⟨appended, appends, file⟩ := Asset.exists_appends generated holds
  exact ⟨⟨asset, holder, appended⟩, rfl, offered, own, ⟨_, same ▸ recorded⟩, known,
    appends.mono within, file⟩

private theorem exists_members (sourced : session.Sourced catalog targets) {keys : List String}
    {holders : List Authority}
    (known : List.Forall₂ (fun key holder => session.executor.parents.authorityOf key = .ok holder)
      keys holders) :
    ∃ members : List (Member σ ε), members.map Member.holder = holders ∧
      List.Forall₂ (Member.Under catalog targets session.executor.parents) keys members := by
  induction known with
  | nil => exact ⟨[], rfl, .nil⟩
  | cons first rest ih =>
    obtain ⟨member, rfl, under⟩ := sourced.exists_under first
    obtain ⟨members, rfl, each⟩ := ih
    exact ⟨member :: members, rfl, .cons under each⟩

end Session.Sourced

namespace Certificate

/-- The block that a certificate is in armor. -/
def block (certificate : Certificate) : Armor.Block :=
  ⟨label, [], certificate.encode⟩

/-- The certificates of a text are read back from it as its blocks. -/
theorem readBlocks?_flatMap_pem (certificates : List Certificate) :
    Armor.readBlocks? (certificates.flatMap pem).length (certificates.flatMap pem) =
      some (certificates.map block) := by
  have armored : certificates.flatMap pem =
      Armor.armoredAll (certificates.map fun other => (label, other.encode)) := by
    rw [Armor.armoredAll, List.flatMap_map]
    rfl
  have labels : ∀ entry ∈ certificates.map fun other => (label, other.encode),
      Armor.IsLabel entry.1 := by
    intro entry member
    obtain ⟨other, -, rfl⟩ := List.mem_map.mp member
    exact isLabel_label
  rw [armored, Armor.readBlocks?_armoredAll labels (Armor.length_le_armoredAll _), List.map_map]
  rfl

end Certificate

/-- The bundle held, if there is one. -/
def Product.bundle? : Product ε → Option Bundle
  | .bundle made => made
  | _ => none

private theorem Product.eq_of_bundle? {product : Product ε} {bundle : Bundle}
    (holds : product.bundle? = some bundle) : product = .bundle (some bundle) := by
  cases product with
  | bundle made => exact congrArg _ holds
  | _ => cases holds

/-- The blocks of a bundle's file. -/
def Bundle.blocks? (bundle : Bundle) : Option (List Armor.Block) :=
  Armor.readBlocks? bundle.data.length bundle.data

namespace Member

variable {members : List (Member σ ε)}

private theorem length_certificates (members : List (Member σ ε)) :
    (members.flatMap certificates).length =
      members.length + (members.map fun member => member.appended.length).sum := by
  induction members with
  | nil => rfl
  | cons member members ih =>
    have own : member.certificates.length = member.appended.length + 1 := rfl
    rw [List.flatMap_cons, List.length_append, own, ih, List.length_cons, List.map_cons, List.sum_cons]
    omega

/-- The blocks of members are those of their own certificates exactly if nothing is appended to any. -/
private theorem blocks_eq_iff :
    (members.flatMap certificates).map Certificate.block =
        (members.map fun member => member.holder.pair.certificate.block) ↔
      ∀ member ∈ members, member.appended = [] := by
  constructor
  · -- blocks of different certificates may be equal, so that only the lengths can tell
    intro same
    have lengths := congrArg List.length same
    rw [List.length_map, List.length_map, length_certificates, Nat.add_eq_left,
      List.sum_eq_zero_iff] at lengths
    exact fun member isMember => List.length_eq_zero_iff.mp
      (lengths _ (List.mem_map_of_mem isMember))
  · intro nothing
    have single : ∀ member ∈ members,
        member.certificates.map Certificate.block = [member.holder.pair.certificate.block] := by
      intro member isMember
      rw [certificates, nothing member isMember]
      rfl
    rw [List.map_flatMap, List.flatMap_congr single, ← List.map_eq_flatMap]

variable {catalog : Catalog σ ε} {targets : List (Target σ ε)} {parents : Parents ε}
  {keys : List String}

private theorem exists_key (each : List.Forall₂ (Member.Under catalog targets parents) keys members) :
    ∀ member ∈ members, ∃ key, member.Under catalog targets parents key := by
  induction each with
  | nil => exact List.forall_mem_nil _
  | cons first rest ih => exact List.forall_mem_cons.mpr ⟨⟨_, first⟩, ih⟩

end Member

/-- A recorded bundle is one that was on offer, of the members that are recorded under its keys, and its
blocks are those of the certificates in the files of the members, in order. -/
theorem Session.Sourced.bundle_blocks {catalog : Catalog σ ε} {targets : List (Target σ ε)}
    {session : Session σ ε} (sourced : session.Sourced catalog targets) {key : String} {node : Node ε}
    {bundle : Bundle} (recorded : session.executor.parents.get? key = some node)
    (isBundle : node.product = .bundle (some bundle)) :
    ∃ declared, ∃ members : List (Member σ ε),
      catalog.Offers targets (.bundle declared) ∧
      node = (Asset.bundle declared : Asset σ ε).holding (.bundle (some bundle)) ∧
      List.Forall₂ (Member.Under catalog targets session.executor.parents) declared.authorities
        members ∧
      bundle.blocks? = some ((members.flatMap Member.certificates).map Certificate.block) := by
  obtain ⟨asset, before, earlier, after, offered, -, same, within, generated⟩ :=
    sourced key node recorded
  rw [isBundle] at same generated
  obtain ⟨declared, holders, rfl, known, data⟩ := Asset.generate_bundle generated
  obtain ⟨members, rfl, each⟩ := sourced.exists_members
    (known.imp fun _ _ => within.authorityOf)
  have file : bundle.data = (members.flatMap Member.certificates).flatMap Certificate.pem := by
    rw [data, List.flatMap_map, List.flatMap_assoc]
    refine List.flatMap_congr fun member isMember => ?_
    obtain ⟨key, under⟩ := Member.exists_key each member isMember
    exact under.file
  refine ⟨declared, members, offered, same, each, ?_⟩
  rw [Bundle.blocks?, file, Certificate.readBlocks?_flatMap_pem]

namespace Resolution

/-- After any calls, for keys or for assets at hand, a recorded bundle holds for each of the authorities
that it declares, in order, the certificate of the authority recorded under the key, and behind it that
of its issuer if the authority was declared to go on with that. It holds one certificate for each, that
of the authority, exactly if none of them was. -/
theorem callAll_bundles (catalog : Catalog σ ε) (workshop : Workshop σ)
    (targets : List (Target σ ε)) :
    let parents := (callAll catalog targets (.fresh workshop)).executor.parents
    ∀ key node bundle, parents.get? key = some node → node.product = .bundle (some bundle) →
      ∃ declared, ∃ members : List (Member σ ε),
        catalog.Offers targets (.bundle declared) ∧
        node = (Asset.bundle declared : Asset σ ε).holding (.bundle (some bundle)) ∧
        List.Forall₂ (Member.Under catalog targets parents) declared.authorities members ∧
        bundle.blocks? = some ((members.flatMap Member.certificates).map Certificate.block) ∧
        (bundle.blocks? = some (members.map fun member => member.holder.pair.certificate.block) ↔
          ∀ member ∈ members, ¬ member.asset.AppendsParent) := by
  intro parents key node bundle recorded isBundle
  have sourced := callAll_sourced catalog workshop targets
  obtain ⟨declared, members, offered, same, each, blocks⟩ := sourced.bundle_blocks recorded isBundle
  refine ⟨declared, members, offered, same, each, blocks, ?_⟩
  rw [blocks, Option.some.injEq, Member.blocks_eq_iff]
  refine forall₂_congr fun member isMember => ?_
  obtain ⟨key, under⟩ := Member.exists_key each member isMember
  exact under.appends.eq_nil_iff

/-- A root, an authority that it signs and whose file goes on with the root, and a bundle of that
authority alone. -/
def handedDownAssets : List (Asset Unit Unit) :=
  [.selfSigned ⟨"root", .fixed (Cluster.signerSpec "root" Cluster.oneYear "unit" Cluster.oneYear_pos),
      "root", [], some 1128⟩,
    .signed ⟨"middle", "root",
      .fixed (Cluster.signerSpec "middle" Cluster.oneYear "unit" Cluster.oneYear_pos), .appendParent,
      "middle", [], some 1800⟩,
    .bundle ⟨"trust", ["middle"], "trust"⟩]

/-- The catalog of the three. -/
def handedDown : Catalog Unit Unit :=
  ⟨handedDownAssets.map fun asset => (asset.key, .always asset), by decide⟩

private theorem handedDown_offers {asset : Asset Unit Unit}
    (offered : handedDown.Offers [.key "trust"] asset) :
    asset ∈ handedDownAssets := by
  rcases offered with ⟨-, factory, app, found, made⟩ | member
  · obtain ⟨other, member, same⟩ := List.mem_map.mp (Catalog.lookup_eq_some_iff.mp found)
    obtain ⟨-, rfl⟩ := Prod.mk.inj same
    cases made
    exact member
  · cases List.mem_singleton.mp member

private theorem handedDown_bundle :
    let parents := (callAll handedDown [.key "trust"] (.fresh mersenneWorkshop)).executor.parents
    ∃ node bundle, parents.get? "trust" = some node ∧ node.product = .bundle (some bundle) := by
  intro parents
  have recorded : ((parents.get? "trust").bind fun node => node.product.bundle?).isSome = true := by
    decide +kernel
  obtain ⟨bundle, holds⟩ := Option.isSome_iff_exists.mp recorded
  obtain ⟨node, known, isBundle⟩ := Option.bind_eq_some_iff.mp holds
  exact ⟨node, bundle, known, Product.eq_of_bundle? isBundle⟩

/-- What the bundle is made of. -/
theorem handedDown_bundles :
    let parents := (callAll handedDown [.key "trust"] (.fresh mersenneWorkshop)).executor.parents
    ∃ node bundle, parents.get? "trust" = some node ∧ node.product = .bundle (some bundle) ∧
      ∃ declared, ∃ members : List (Member Unit Unit),
        node = (Asset.bundle declared : Asset Unit Unit).holding (.bundle (some bundle)) ∧
        List.Forall₂ (Member.Under handedDown [.key "trust"] parents) declared.authorities members ∧
        bundle.blocks? = some ((members.flatMap Member.certificates).map Certificate.block) := by
  intro parents
  obtain ⟨node, bundle, known, isBundle⟩ := handedDown_bundle
  obtain ⟨declared, members, -, same, each, blocks, -⟩ :=
    callAll_bundles handedDown mersenneWorkshop [.key "trust"] "trust" node bundle known isBundle
  exact ⟨node, bundle, known, isBundle, declared, members, same, each, blocks⟩

/-- The bundle declares one authority, and holds its certificate and that of the root. -/
theorem handedDown_holds_root :
    let parents := (callAll handedDown [.key "trust"] (.fresh mersenneWorkshop)).executor.parents
    ∃ node bundle middle root, parents.get? "trust" = some node ∧
      node.product = .bundle (some bundle) ∧ node.dependencies = ["middle"] ∧
      parents.authorityOf "middle" = .ok middle ∧ parents.authorityOf "root" = .ok root ∧
      bundle.blocks? = some [middle.pair.certificate.block, root.pair.certificate.block] ∧
      bundle.blocks? ≠ some [middle.pair.certificate.block] := by
  intro parents
  obtain ⟨node, bundle, known, isBundle⟩ := handedDown_bundle
  have sourced := callAll_sourced handedDown mersenneWorkshop [.key "trust"]
  obtain ⟨declared, members, offered, same, each, blocks⟩ := sourced.bundle_blocks known isBundle
  have isDeclared : declared = ⟨"trust", ["middle"], "trust"⟩ := by
    simpa [handedDownAssets] using handedDown_offers offered
  rw [isDeclared, List.forall₂_cons_left_iff] at each
  obtain ⟨⟨asset, middle, appended⟩, others, under, noOthers, rfl⟩ := each
  cases noOthers
  obtain ⟨root, isRoot, rfl⟩ : ∃ root, parents.authorityOf "root" = .ok root ∧
      appended = [root.pair.certificate] := by
    -- of the three assets only the second has the key, and it appends the certificate of its issuer
    have offeredToo := handedDown_offers under.offered
    have own : asset.key = "middle" := under.own
    simp only [handedDownAssets, List.mem_cons, List.not_mem_nil, or_false] at offeredToo
    rcases offeredToo with rfl | rfl | rfl
    · exact absurd own (by decide)
    · cases under.appends with
      | nothing unasked => exact absurd rfl unasked
      | parent asked isRoot => exact ⟨_, isRoot, rfl⟩
    · exact absurd own (by decide)
  refine ⟨node, bundle, middle, root, known, isBundle, ?_, under.holds, isRoot, blocks, ?_⟩
  · rw [same, isDeclared]
    rfl
  · rw [blocks]
    exact fun absurd => by cases absurd

end Resolution

end CertGraph
