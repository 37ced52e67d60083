import CertGraph.Cluster.Specs
import CertGraph.Proofs.Issuance.Issued
import CertGraph.Proofs.Resolution.Made
import Mathlib.Data.List.Forall2
import Mathlib.NumberTheory.LucasLehmer

/- What recorded assets hold: each certificate against that of the very authority recorded under its
issuer, and each bundle against the authorities recorded under its keys. -/
set_option autoImplicit false
set_option relaxedAutoImplicit false

namespace CertGraph

variable {σ ε : Type}

namespace Parents

/-- Assets that are recorded stay recorded. -/
def Within (parents more : Parents ε) : Prop :=
  ∀ key node, parents.get? key = some node → more.get? key = some node

theorem authorityOf_ok {parents : Parents ε} {key : String} {holder : Authority} :
    parents.authorityOf key = .ok holder ↔
      ∃ node, parents.get? key = some node ∧ node.product.authority? = some holder := by
  simp only [authorityOf, get]
  rcases parents.get? key with _ | node
  · exact ⟨nofun, fun ⟨_, known, _⟩ => by cases known⟩
  · simp only [bind, Except.bind, Option.some.injEq, exists_eq_left']
    rcases node.product.authority? with _ | other
    · exact ⟨nofun, nofun⟩
    · simp only [Except.ok.injEq, Option.some.injEq]

theorem Within.authorityOf {parents more : Parents ε} (within : parents.Within more) {key : String}
    {holder : Authority} (known : parents.authorityOf key = .ok holder) :
    more.authorityOf key = .ok holder := by
  obtain ⟨node, recorded, holds⟩ := authorityOf_ok.mp known
  exact authorityOf_ok.mpr ⟨node, within key node recorded, holds⟩

theorem authorities_ok {parents : Parents ε} {keys : List String} {holders : List Authority}
    (known : keys.mapM parents.authorityOf = .ok holders) :
    List.Forall₂ (fun key holder => parents.authorityOf key = .ok holder) keys holders := by
  induction keys generalizing holders with
  | nil =>
    cases known
    exact .nil
  | cons key keys ih =>
    rw [List.mapM_cons] at known
    cases first : parents.authorityOf key with
    | error failure =>
      rw [first] at known
      cases known
    | ok holder =>
      cases rest : keys.mapM parents.authorityOf with
      | error failure =>
        rw [first, rest] at known
        cases known
      | ok others =>
        rw [first, rest] at known
        cases known
        exact .cons first (ih rest)

end Parents

namespace Asset

/-- One of the kinds that are not of an application's own. -/
def IsBuiltIn : Asset σ ε → Prop
  | .custom _ => False
  | _ => True

/-- What an asset holds once it is generated, among the assets recorded. A self-signed authority is
its own issuer. The certificate of a signed pair was issued by that of the authority under the key of
its issuer, names the key that this one names as its own, and is followed in its file by this one if
that is asked for. A bundle holds the files of the authorities under its keys, in order. -/
def Fulfilled (parents : Parents ε) : Asset σ ε → Product ε → Prop
  | .installConfig config, product => product = .settings config
  | .selfSigned _, product => ∃ holder : Authority, product = .authority (some holder) ∧
      holder.pair.certificate.body.issuer = holder.pair.certificate.body.subject ∧
      holder.pair.certificate.isIssuedBy holder.pair.certificate = true
  | .signed declared, product => ∃ issued : Issued, ∃ issuer : Authority,
      product = .pair (some issued) ∧ parents.authorityOf declared.issuer = .ok issuer ∧
      issued.pair.certificate.isIssuedBy issuer.pair.certificate = true ∧
      (∃ identifier, issued.pair.certificate.authorityKeyId? = some identifier ∧
        issuer.pair.certificate.subjectKeyId? = some identifier) ∧
      issued.pair.certPem = issued.pair.certificate.pem ++
        (if declared.policy = .appendParent then issuer.pair.certificate.pem else [])
  | .bundle declared, product => ∃ bundle : Bundle, ∃ holders : List Authority,
      product = .bundle (some bundle) ∧
      List.Forall₂ (fun key holder => parents.authorityOf key = .ok holder)
        declared.authorities holders ∧
      bundle.data = holders.flatMap fun holder => holder.pair.certPem
  | .custom _, _ => True

theorem Fulfilled.mono {parents more : Parents ε} (within : parents.Within more)
    {asset : Asset σ ε} {product : Product ε} (fulfilled : asset.Fulfilled parents product) :
    asset.Fulfilled more product := by
  cases asset with
  | installConfig config => exact fulfilled
  | selfSigned declared => exact fulfilled
  | signed declared =>
    obtain ⟨issued, issuer, holds, known, rest⟩ := fulfilled
    exact ⟨issued, issuer, holds, within.authorityOf known, rest⟩
  | bundle declared =>
    obtain ⟨bundle, holders, holds, known, data⟩ := fulfilled
    exact ⟨bundle, holders, holds, known.imp fun _ _ => within.authorityOf, data⟩
  | custom declared => trivial

end Asset

/-- The authority that is held, if one is, has a certificate that names its key. -/
def Product.NamesKey (product : Product ε) : Prop :=
  ∀ holder, product.authority? = some holder → holder.pair.NamesKey

private theorem Product.namesKey_of_none {product : Product ε} (absent : product.authority? = none) :
    product.NamesKey := by
  intro holder holds
  rw [absent] at holds
  cases holds

namespace Asset

theorem generate_onlyTakes {asset : Asset σ ε} (builtIn : asset.IsBuiltIn)
    (parents : Parents ε) : (asset.generate parents).OnlyTakes := by
  cases asset with
  | installConfig config => exact .pure _
  | selfSigned declared =>
    exact .bind (.ofExcept _ _) fun spec => .bind (.issueSelfSigned _ _ _) fun holder => .pure _
  | signed declared =>
    exact .bind (.ofExcept _ _) fun issuer => .bind (.ofExcept _ _) fun spec =>
      .bind (.issueWith _ _ _ _ _) fun issued => .pure _
  | bundle declared =>
    exact .bind (.ofExcept _ _) fun members => .bind (.aggregateBundle _ _) fun bundle => .pure _
  | custom declared => exact builtIn.elim

/-- What is generated is as it should be, if the authorities recorded name their keys; and so does the
one that is generated. -/
theorem generate_ok {asset : Asset σ ε} (builtIn : asset.IsBuiltIn) {parents : Parents ε}
    {product : Product ε} {workshop after : Workshop σ}
    (wellFormed : workshop.supply.source.WellFormed)
    (named : ∀ key holder, parents.authorityOf key = .ok holder → holder.pair.NamesKey)
    (ended : outcome (asset.generate parents) workshop = (.ok product, after)) :
    asset.Fulfilled parents product ∧ product.NamesKey := by
  cases asset with
  | installConfig config =>
    cases ended
    exact ⟨rfl, Product.namesKey_of_none rfl⟩
  | selfSigned declared =>
    obtain ⟨spec, first, read, ended⟩ := outcome_bind_ok ended
    obtain ⟨holder, second, issued, ended⟩ := outcome_bind_ok ended
    cases ended
    have same : first = workshop := Work.ofExcept_after read
    subst same
    obtain ⟨ownIssuer, verified, own⟩ := issueSelfSigned_ok wellFormed issued
    refine ⟨⟨holder, rfl, ownIssuer, verified⟩, ?_⟩
    rintro _ ⟨rfl⟩
    exact own
  | signed declared =>
    obtain ⟨issuer, first, found, ended⟩ := outcome_bind_ok ended
    obtain ⟨spec, second, read, ended⟩ := outcome_bind_ok ended
    obtain ⟨made, third, issued, ended⟩ := outcome_bind_ok ended
    cases ended
    have known : parents.authorityOf declared.issuer = .ok issuer := Work.ofExcept_ok found
    obtain ⟨verified, names, chain, own⟩ := issueWith_ok issued
    refine ⟨⟨made, issuer, rfl, known, verified, ⟨_, names, named _ _ known⟩, chain⟩, ?_⟩
    intro holder holds
    cases made with
    | leaf pair => cases holds
    | authority other =>
      cases holds
      exact own
  | bundle declared =>
    obtain ⟨members, first, found, ended⟩ := outcome_bind_ok ended
    obtain ⟨bundle, second, made, ended⟩ := outcome_bind_ok ended
    cases ended
    exact ⟨⟨bundle, members, rfl, Parents.authorities_ok (Work.ofExcept_ok found),
      (aggregateBundle_ok made).2⟩, Product.namesKey_of_none rfl⟩
  | custom declared => exact builtIn.elim

end Asset

namespace Catalog

/-- All that factories make is of the kinds that are not of an application's own. -/
def BuiltIn (catalog : Catalog σ ε) : Prop :=
  ∀ key factory, catalog.entries.lookup key = some factory →
    ∀ app asset, (factory app).1 = .ok asset → asset.IsBuiltIn

theorem BuiltIn.of_makes {catalog : Catalog σ ε} (builtIn : catalog.BuiltIn) {key : String}
    {asset : Asset σ ε} (makes : catalog.Makes key asset) : asset.IsBuiltIn := by
  obtain ⟨-, factory, app, found, made⟩ := makes
  exact builtIn key factory found app asset made

end Catalog

/-- Every recorded asset is one that the factory of its key makes, holding what it should. -/
structure Session.Productive (catalog : Catalog σ ε) (session : Session σ ε) : Prop where
  wellFormed : session.workshop.supply.source.WellFormed
  fulfilled : ∀ key node, session.executor.parents.get? key = some node →
    ∃ asset, catalog.Makes key asset ∧ node = asset.holding node.product ∧
      asset.Fulfilled session.executor.parents node.product
  named : ∀ key node, session.executor.parents.get? key = some node → node.product.NamesKey

namespace Session.Productive

variable {catalog : Catalog σ ε} {session : Session σ ε}

private theorem of_workshop {workshop : Workshop σ} (productive : session.Productive catalog)
    (same : workshop.supply.source = session.workshop.supply.source) :
    ({ session with workshop } : Session σ ε).Productive catalog :=
  ⟨same ▸ productive.wellFormed, productive.fulfilled, productive.named⟩

/-- Generating an asset leaves the source as it is, whatever comes of that. -/
private theorem source_after {asset : Asset σ ε} (productive : session.Productive catalog)
    (builtIn : asset.IsBuiltIn) {result : Except Failure (Product ε)} {workshop : Workshop σ}
    (ended : (asset.generate session.executor.parents).outcome
      (session.starting asset).workshop = (result, workshop)) :
    workshop.supply.source.WellFormed := by
  have taken := Asset.generate_onlyTakes builtIn session.executor.parents
    (session.starting asset).workshop
  rw [← Work.outcome_eq, ended] at taken
  have same : workshop.supply.source = session.workshop.supply.source := taken.source
  exact same ▸ productive.wellFormed

/-- Keeping an asset that holds what it should. -/
private theorem keeping {asset : Asset σ ε} {product : Product ε}
    (productive : session.Productive catalog)
    (makes : catalog.Makes asset.key asset)
    (fulfilled : asset.Fulfilled session.executor.parents product) (named : product.NamesKey)
    (within : session.executor.parents.Within
      (session.keeping (asset.holding product)).executor.parents) :
    (session.keeping (asset.holding product)).Productive catalog := by
  refine ⟨productive.wellFormed, ?_, ?_⟩
  · intro key node known
    rcases Parents.get?_concat_cases known with old | ⟨rfl, rfl⟩
    · obtain ⟨other, makesOther, holds, asDeclared⟩ := productive.fulfilled key node old
      exact ⟨other, makesOther, holds, asDeclared.mono within⟩
    · exact ⟨asset, makes, rfl, fulfilled.mono within⟩
  · intro key node known
    rcases Parents.get?_concat_cases known with old | ⟨rfl, rfl⟩
    · exact productive.named key node old
    · exact named

private theorem authorityOf_named (productive : session.Productive catalog) (key : String)
    (holder : Authority) (known : session.executor.parents.authorityOf key = .ok holder) :
    holder.pair.NamesKey := by
  obtain ⟨node, recorded, holds⟩ := Parents.authorityOf_ok.mp known
  exact productive.named key node recorded holder holds

end Session.Productive

namespace Runs

variable {catalog : Catalog σ ε} {task : Task σ ε} {session after : Session σ ε}
  {result : Except Failure (Node ε)}

/-- Whatever a run comes to, all recorded assets hold what they should. -/
theorem productive (run : Runs catalog task session result after) (builtIn : catalog.BuiltIn)
    (declared : task.Declared catalog) (productive : session.Productive catalog) :
    after.Productive catalog := by
  induction run with
  | reuseKey known =>
    exact ⟨productive.wellFormed, productive.fulfilled, productive.named⟩
  | reuseAsset known =>
    exact ⟨productive.wellFormed, productive.fulfilled, productive.named⟩
  | uncreated absent created =>
    obtain ⟨app, rfl⟩ := Catalog.create_workshop created
    exact productive.of_workshop rfl
  | created absent created rest ih =>
    obtain ⟨factory, found, made, rfl, rfl⟩ := Catalog.create_ok created
    exact ih ⟨rfl, factory, _, found, made⟩ (productive.of_workshop rfl)
  | cycle absent stacked => exact productive
  | visited absent unstacked rest ih =>
    exact ih declared ⟨productive.wellFormed, productive.fulfilled, productive.named⟩
  | fetched first rest ihFirst ihRest =>
    exact ihRest declared (ihFirst trivial productive)
  | unfetched first ih =>
    have middle := ih trivial productive
    exact ⟨middle.wellFormed, middle.fulfilled, middle.named⟩
  | broken failed =>
    have wellFormed := productive.source_after (builtIn.of_makes declared) failed
    exact ⟨wellFormed, productive.fulfilled, productive.named⟩
  | @made asset product session workshop generated =>
    have builtInAsset := builtIn.of_makes declared
    have wellFormed := productive.source_after builtInAsset generated
    have run : Runs catalog (.finish asset []) session _ _ := .made generated
    have within : session.executor.parents.Within _ := fun key node known => run.grown.get? known
    have middle : (({ session.starting asset with workshop } : Session σ ε).noted
        (.finished asset.key)).pop.Productive catalog :=
      ⟨wellFormed, productive.fulfilled, productive.named⟩
    have startWellFormed : (session.starting asset).workshop.supply.source.WellFormed :=
      productive.wellFormed
    rw [Work.outcome_eq] at generated
    obtain ⟨fulfilled, named⟩ := Asset.generate_ok builtInAsset startWellFormed
      productive.authorityOf_named generated
    exact middle.keeping declared fulfilled named within

end Runs

namespace Resolution

/-- Let the source give well-formed keys, and let all assets be of the built-in kinds. After any
calls, whatever came of each, every recorded asset is one that the factory of its key makes, and holds
what it should: each certificate is issued by that of the authority recorded under its issuer, itself
if it is self-signed, and each bundle is made of the authorities recorded under its keys. -/
theorem callAll_fulfills (catalog : Catalog σ ε) (builtIn : catalog.BuiltIn)
    (workshop : Workshop σ) (wellFormed : workshop.supply.source.WellFormed)
    (targets : List String) :
    let parents := (callAll catalog (targets.map .key) (.fresh workshop)).executor.parents
    ∀ key node, parents.get? key = some node →
      ∃ asset, catalog.Makes key asset ∧ node = asset.holding node.product ∧
        asset.Fulfilled parents node.product := by
  intro parents
  have nothing (key : String) (node : Node ε) :
      (Session.fresh workshop : Session σ ε).executor.parents.get? key ≠ some node := by
    rw [show (Session.fresh workshop : Session σ ε).executor.parents.get? key = none from rfl]
    exact nofun
  have fresh : (Session.fresh workshop : Session σ ε).Productive catalog :=
    ⟨wellFormed, fun key node known => (nothing key node known).elim,
      fun key node known => (nothing key node known).elim⟩
  have step : ∀ target ∈ targets.map Target.key, ∀ session : Session σ ε, session.Idle →
      session.Productive catalog → (call catalog target session).2.Productive catalog := by
    intro target member session idle productive
    obtain ⟨key, -, rfl⟩ := List.mem_map.mp member
    exact (call_runs (.key key) idle).productive builtIn trivial productive
  have productive : (callAll catalog (targets.map .key) (.fresh workshop)).Productive catalog :=
    (callAll_induction _ (Session.Idle.fresh workshop) fresh step).2
  exact productive.fulfilled

/-- The key of two Mersenne numbers and the usual exponent. -/
def mersenneKey (long short : Nat) : Rsa.PrivateKey :=
  .ofPrimes (mersenne long) (mersenne short) Rsa.usualExponent

/-- A source that gives one key first and another one from then on. -/
def mersenneSource : Source where
  key count := .ok (if count = 0 then mersenneKey 607 521 else mersenneKey 1279 521)
  random count := BitVec.ofNat 128 (count + 1)

theorem mersenne_607_prime : (mersenne 607).Prime :=
  lucas_lehmer_sufficiency _ (by norm_num) (by norm_num)

theorem mersenneSource_key {count : Nat} {key : Rsa.PrivateKey}
    (given : mersenneSource.key count = .ok key) :
    ∃ long short, key = mersenneKey long short ∧ (mersenne long).Prime ∧ (mersenne short).Prime ∧
      mersenne long ≠ mersenne short ∧ (mersenneKey long short).secret * Rsa.usualExponent %
        Rsa.PrivateKey.period (mersenne long) (mersenne short) = 1 := by
  have prime521 : (mersenne 521).Prime := lucas_lehmer_sufficiency _ (by norm_num) (by norm_num)
  have prime1279 : (mersenne 1279).Prime := lucas_lehmer_sufficiency _ (by norm_num) (by norm_num)
  rw [← Except.ok.inj given]
  split
  · exact ⟨607, 521, rfl, mersenne_607_prime, prime521, by decide +kernel, by decide +kernel⟩
  · exact ⟨1279, 521, rfl, prime1279, prime521, by decide +kernel, by decide +kernel⟩

theorem mersenneSource_wellFormed : mersenneSource.WellFormed := by
  intro count key given
  obtain ⟨long, short, rfl, primeLong, primeShort, distinct, undone⟩ := mersenneSource_key given
  exact Rsa.PrivateKey.wellFormed_of_primes primeLong primeShort distinct undone

/-- An authority, a server whose certificate it signs, and a bundle of the authority. -/
def chain : Catalog Unit Unit :=
  ⟨[("root", .always (.selfSigned ⟨"root",
      .fixed (Cluster.signerSpec "root" Cluster.oneYear "unit" Cluster.oneYear_pos), "root", [],
      some 1128⟩)),
    ("server", .always (.signed ⟨"server", "root", .fixed Cluster.localhostServerSpec,
      .appendParent, "server", [], some 1800⟩)),
    ("trust", .always (.bundle ⟨"trust", ["root"], "trust"⟩))], by decide⟩

/-- A workshop in which nothing has happened, with the two keys to take. -/
def mersenneWorkshop : Workshop Unit :=
  ⟨.fresh mersenneSource ⟨63000000000000000⟩, [], ()⟩

theorem chain_builtIn : chain.BuiltIn := by
  intro key factory found app asset made
  simp only [chain, List.lookup_cons, List.lookup_nil] at found
  split at found
  · cases found
    cases made
    trivial
  · split at found
    · cases found
      cases made
      trivial
    · split at found
      · cases found
        cases made
        trivial
      · cases found

/-- After a call that fails, the server and the bundle are generated, from the root that was. -/
theorem chain_fulfills :
    let parents := (callAll chain (["missing", "server", "trust"].map .key)
      (.fresh mersenneWorkshop)).executor.parents
    ∀ key ∈ ["root", "server", "trust"], ∃ node, parents.get? key = some node ∧
      ∃ asset, chain.Makes key asset ∧ node = asset.holding node.product ∧
        asset.Fulfilled parents node.product := by
  intro parents key member
  have recorded : ∀ key ∈ ["root", "server", "trust"], (parents.get? key).isSome = true := by
    decide +kernel
  obtain ⟨node, known⟩ := Option.isSome_iff_exists.mp (recorded key member)
  exact ⟨node, known, callAll_fulfills chain chain_builtIn mersenneWorkshop
    mersenneSource_wellFormed _ key node known⟩

end Resolution

end CertGraph
