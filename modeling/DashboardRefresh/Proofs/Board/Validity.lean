import DashboardRefresh.Proofs.Board.Building
import Mathlib.Data.List.Forall2

/-!
# Valid entries

When the widget of an entry can be built, said of the entry alone: a monitor needs a URL for each of
its sites, a custom API one of its own, and a list of releases some repositories, each at a source
that is known, and room for a release. A group is valid if its children are, none of which is a
group. Widgets are built one after the other, so that valid entries at the front are built whatever
follows, and the first entry that is not valid decides what becomes of the rest.
-/

namespace DashboardRefresh

/-! ## Lists -/

/-- Either all members of a list have a property, or one of them is the first that does not. -/
theorem forall_mem_or_exists_first {α : Type} (p : α → Prop) (xs : List α) :
    (∀ x ∈ xs, p x) ∨
      ∃ before x after, xs = before ++ x :: after ∧ (∀ y ∈ before, p y) ∧ ¬ p x := by
  induction xs with
  | nil => exact .inl (by simp)
  | cons x xs ih =>
    by_cases hx : p x
    · rcases ih with hall | ⟨before, y, after, rfl, hbefore, hy⟩
      · exact .inl (List.forall_mem_cons.2 ⟨hx, hall⟩)
      · exact .inr ⟨x :: before, y, after, rfl, List.forall_mem_cons.2 ⟨hx, hbefore⟩, hy⟩
    · exact .inr ⟨[], x, xs, rfl, by simp, hx⟩

theorem exists_mapM_eq_ok_iff {ε α β : Type} {f : α → Except ε β} {xs : List α} :
    (∃ ys, xs.mapM f = .ok ys) ↔ ∀ x ∈ xs, ∃ y, f x = .ok y := by
  induction xs with
  | nil => exact ⟨by simp, fun _ => ⟨[], rfl⟩⟩
  | cons x xs ih =>
    rw [List.forall_mem_cons, ← ih, List.mapM_cons]
    constructor
    · rintro ⟨ys, h⟩
      obtain ⟨y, hy, h⟩ := exists_of_bind_eq_ok h
      obtain ⟨zs, hzs, _⟩ := exists_of_bind_eq_ok h
      exact ⟨⟨y, hy⟩, zs, hzs⟩
    · rintro ⟨⟨y, hy⟩, zs, hzs⟩
      rw [hy, hzs]
      exact ⟨y :: zs, rfl⟩

/-! ## Valid entries -/

/-- The entry names repositories, all of its texts can be read, and there is room for a release. -/
structure ReleasesConfig.IsValid (c : ReleasesConfig) : Prop where
  repositories_ne_nil : c.repositories ≠ []
  repositories_parse : ∀ text ∈ c.repositories, ∃ entry, ReleaseEntry.parse text = .ok entry
  sources_known : ∀ p ∈ c.baseUrls, ∃ source : ReleaseSource, p.1 = source.name
  limit_ne_zero : c.limit ≠ some 0

/-- The entry has all that its kind of widget needs. -/
def LeafConfig.IsValid : LeafConfig → Prop
  | html _ | calendar _ => True
  | monitor sites _ => ∀ site ∈ sites, ¬ Text.isBlankText site.url
  | customApi api => ¬ Text.isBlankText api.url
  | releases c => c.IsValid

namespace WidgetConfig

/-- The entry is a valid one of a widget that is no group. -/
def IsValidLeaf : WidgetConfig → Prop
  | leaf _ content => content.IsValid
  | group .. => False

/-- The entry is valid. The children of a group are valid and no groups. -/
def IsValid : WidgetConfig → Prop
  | leaf _ content => content.IsValid
  | group _ children => ∀ child ∈ children, child.IsValidLeaf

end WidgetConfig

theorem Monitor.exists_ofConfig_iff {sites : List SiteConfig} {showFailingOnly : Bool} :
    (∃ m, ofConfig sites showFailingOnly = .ok m) ↔
      ∀ site ∈ sites, ¬ Text.isBlankText site.url := by
  unfold ofConfig
  split
  · rename_i site hsite
    refine ⟨fun ⟨_, h⟩ => (by cases h), fun h => ?_⟩
    exact absurd (List.find?_some hsite) (h site (List.mem_of_find?_eq_some hsite))
  · rename_i hnone
    exact ⟨fun _ => List.find?_eq_none.1 hnone, fun _ => ⟨_, rfl⟩⟩

theorem ReleaseList.exists_baseUrl_iff {name url : String} :
    (∃ root, baseUrl name url = .ok root) ↔ ∃ source : ReleaseSource, name = source.name := by
  unfold baseUrl
  split
  · rename_i source hsource
    exact ⟨fun _ => ⟨source, ReleaseSource.ofName?_eq_some.1 hsource⟩, fun _ => ⟨_, rfl⟩⟩
  · rename_i hnone
    refine ⟨fun ⟨_, h⟩ => (by cases h), fun ⟨source, hname⟩ => ?_⟩
    rw [hname, ReleaseSource.ofName?_name] at hnone
    cases hnone

theorem exists_mapError_eq_ok_iff {ε ε' α : Type} {f : ε → ε'} {x : Except ε α} :
    (∃ a, x.mapError f = .ok a) ↔ ∃ a, x = .ok a := by
  cases x with
  | ok a => exact ⟨fun _ => ⟨a, rfl⟩, fun _ => ⟨a, rfl⟩⟩
  | error => exact ⟨fun ⟨_, h⟩ => (by cases h), fun ⟨_, h⟩ => (by cases h)⟩

theorem ReleaseList.exists_ofConfig_iff {c : ReleasesConfig} :
    (∃ L, ofConfig c = .ok L) ↔ c.IsValid := by
  have hlimit : c.limit.getD defaultLimit = 0 ↔ c.limit = some 0 := by
    cases c.limit with
    | none => simp [defaultLimit]
    | some limit => simp
  constructor
  · rintro ⟨L, h⟩
    unfold ofConfig at h
    split at h
    · cases h
    · rename_i hne
      obtain ⟨entries, hentries, h⟩ := exists_of_bind_eq_ok h
      obtain ⟨baseUrls, hroots, h⟩ := exists_of_bind_eq_ok h
      dsimp only at h
      split at h
      · cases h
      · rename_i hnonzero
        exact
          { repositories_ne_nil := by simpa using hne
            repositories_parse := fun text htext =>
              exists_mapError_eq_ok_iff.1 (exists_mapM_eq_ok_iff.1 ⟨entries, hentries⟩ text htext)
            sources_known := fun p hp =>
              exists_baseUrl_iff.1 (exists_mapM_eq_ok_iff.1 ⟨baseUrls, hroots⟩ p hp)
            limit_ne_zero := mt hlimit.2 hnonzero }
  · intro h
    have hne : c.repositories.isEmpty = false := by simpa using h.repositories_ne_nil
    obtain ⟨entries, hentries⟩ : ∃ entries,
        c.repositories.mapM
            (fun text => (ReleaseEntry.parse text).mapError WidgetFault.badRepository) =
          .ok entries :=
      exists_mapM_eq_ok_iff.2 fun text htext =>
        exists_mapError_eq_ok_iff.2 (h.repositories_parse text htext)
    obtain ⟨baseUrls, hroots⟩ : ∃ baseUrls,
        c.baseUrls.mapM (fun p => baseUrl p.1 p.2) = .ok baseUrls :=
      exists_mapM_eq_ok_iff.2 fun p hp => exists_baseUrl_iff.2 (h.sources_known p hp)
    unfold ofConfig
    rw [hne, hentries, hroots]
    exact ⟨_, if_neg (mt hlimit.1 h.limit_ne_zero)⟩

/-- The content of an entry can be built if the entry is valid. -/
theorem Content.exists_ofConfig_iff {config : LeafConfig} :
    (∃ content, ofConfig config = .ok content) ↔ config.IsValid := by
  have hmap {α β : Type} {f : α → β} {x : Except WidgetFault α} :
      (∃ b, x.map f = .ok b) ↔ ∃ a, x = .ok a := by
    refine ⟨fun ⟨_, h⟩ => ?_, fun ⟨a, h⟩ => ⟨f a, by rw [h]; rfl⟩⟩
    obtain ⟨a, ha, _⟩ := exists_of_map_eq_ok h
    exact ⟨a, ha⟩
  cases config with
  | html | calendar => exact ⟨fun _ => trivial, fun _ => ⟨_, rfl⟩⟩
  | monitor => exact hmap.trans Monitor.exists_ofConfig_iff
  | customApi api =>
    by_cases hblank : Text.isBlankText api.url <;> simp [ofConfig, LeafConfig.IsValid, hblank]
  | releases => exact hmap.trans ReleaseList.exists_ofConfig_iff

theorem Content.exists_fault {config : LeafConfig} (h : ¬ config.IsValid) :
    ∃ fault, ofConfig config = .error fault := by
  cases hbuilt : ofConfig config with
  | error fault => exact ⟨fault, rfl⟩
  | ok content => exact absurd (exists_ofConfig_iff.1 ⟨content, hbuilt⟩) h

/-! ## What is built from valid entries -/

/-- The policy of a widget of some kind. Its entry can say how long fetched content stays fresh; no
time at all says nothing. -/
def WidgetKind.policyFor (kind : WidgetKind) (cache : Option Duration) : CachePolicy :=
  let fresh (seconds : UInt64) : CachePolicy :=
    .fixed ((cache.filter fun d => !d.isZero).getD (.ofSeconds seconds))
  match kind with
  | html | group => .never
  | calendar => .hourly
  | monitor => fresh 300
  | customApi => fresh 3600
  | releases => fresh 7200

theorem WidgetKind.override_defaultPolicy (kind : WidgetKind) (cache : Option Duration) :
    kind.defaultPolicy.override cache = kind.policyFor cache := by
  have hfixed (usual : Duration) : (CachePolicy.fixed usual).override cache =
      .fixed ((cache.filter fun d => !d.isZero).getD usual) := by
    cases cache with
    | none => rfl
    | some d =>
      unfold CachePolicy.override
      cases hzero : d.isZero <;> simp [hzero, Option.filter_some]
  cases kind with
  | html | group | calendar => rfl
  | monitor | customApi | releases => exact hfixed _

/-- No content is fetched all the time. -/
theorem WidgetKind.isZero_of_policyFor {kind : WidgetKind} {cache : Option Duration} {d : Duration}
    (h : kind.policyFor cache = .fixed d) : d.isZero = false := by
  have hfresh {seconds : UInt64} (hpos : (Duration.ofSeconds seconds).isZero = false)
      (h : CachePolicy.fixed ((cache.filter fun d => !d.isZero).getD (.ofSeconds seconds)) =
        .fixed d) : d.isZero = false := by
    rw [← CachePolicy.fixed.inj h]
    cases hcache : cache.filter fun d => !d.isZero with
    | none => exact hpos
    | some custom => simpa using (Option.filter_eq_some_iff.1 hcache).2
  cases kind with
  | html | group | calendar => cases h
  | monitor | customApi | releases => exact hfresh (by decide) h

/-- A monitor that is to be checked all the time is checked every five minutes. -/
example : WidgetKind.monitor.policyFor (some (.ofSeconds 0)) = .fixed (.ofSeconds 300) := by decide

namespace WidgetConfig

/-- The entries of the children. -/
def children : WidgetConfig → List WidgetConfig
  | leaf .. => []
  | group _ children => children

/-- How many widgets a valid entry describes: its own, and its children. -/
def size (c : WidgetConfig) : Nat := c.children.length + 1

/-- The policy that a widget has by its entry. -/
def policy (c : WidgetConfig) : CachePolicy := c.kind.policyFor c.common.cache

end WidgetConfig

/-- The leaf is the child of a group that an entry describes. -/
structure Leaf.IsChildOf (l : Leaf) (c : WidgetConfig) : Prop where
  kind_eq : l.kind = c.kind
  policy_eq : l.base.refresh.policy = c.policy
  hideHeader : l.base.hideHeader

namespace Widget

def children : Widget → List Leaf
  | leaf _ => []
  | group _ children => children

/-- The numbers of a widget and of its children. -/
def ids (w : Widget) : List Nat := w.base.id :: w.children.map (·.base.id)

/-- The widget is the one that an entry describes. -/
structure Follows (w : Widget) (c : WidgetConfig) : Prop where
  kind_eq : w.kind = c.kind
  policy_eq : w.base.refresh.policy = c.policy
  hideHeader : c.kind = .group → w.base.hideHeader
  children : List.Forall₂ Leaf.IsChildOf w.children c.children

end Widget

theorem WidgetBase.ofConfig_policy (id : Nat) (kind : WidgetKind) (common : CommonConfig) :
    (WidgetBase.ofConfig id kind common).refresh.policy = kind.policyFor common.cache := by
  rw [WidgetBase.ofConfig_refresh, ← WidgetKind.override_defaultPolicy]
  rfl

theorem Leaf.build_of_valid {config : LeafConfig} (h : config.IsValid) (last : Nat)
    (common : CommonConfig) : ∃ l : Leaf, (build last common config).result = .ok l ∧
      l.base = WidgetBase.ofConfig (last + 1) config.kind common ∧ l.kind = config.kind := by
  obtain ⟨content, hcontent⟩ := Content.exists_ofConfig_iff.2 h
  refine ⟨⟨_, content⟩, ?_, rfl, Content.kind_of_ofConfig hcontent⟩
  unfold build
  rw [hcontent]
  rfl

/-- Valid children at the front are built whatever follows, with one number after the other. -/
theorem Group.buildChildren_append {before : List WidgetConfig}
    (hbefore : ∀ child ∈ before, child.IsValidLeaf) (last position : Nat) :
    ∃ leaves : List Leaf, leaves.map (·.base.id) = List.range' (last + 1) before.length ∧
      List.Forall₂ Leaf.IsChildOf leaves before ∧
      ∀ rest, buildChildren last position (before ++ rest) =
        let others := buildChildren (last + before.length) (position + before.length) rest
        ⟨others.result.map (leaves ++ ·), others.last⟩ := by
  -- Each child that is built moves the last number and the position on by one.
  induction before generalizing last position with
  | nil =>
    refine ⟨[], rfl, .nil, fun rest => ?_⟩
    have hid (x : Except WidgetFault (List Leaf)) : x.map ([] ++ ·) = x := by cases x <;> rfl
    rw [List.nil_append]
    exact (congrArg (Built.mk · _) (hid _)).symm
  | cons c before ih =>
    obtain ⟨hc, hbefore⟩ := List.forall_mem_cons.1 hbefore
    obtain ⟨leaves, hids, hleaves, hrest⟩ := ih hbefore (last + 1) (position + 1)
    cases c with
    | group => exact hc.elim
    | leaf common content =>
      obtain ⟨l, hl, hbase, hkind⟩ := Leaf.build_of_valid hc last common
      refine ⟨l.asChild :: leaves, ?_, .cons ⟨hkind, ?_, rfl⟩ hleaves, fun rest => ?_⟩
      · have hid : l.asChild.base.id = last + 1 := congrArg WidgetBase.id hbase
        rw [List.map_cons, hids, hid]
        rfl
      · have hpolicy : l.asChild.base.refresh = l.base.refresh := rfl
        rw [hpolicy, hbase, WidgetBase.ofConfig_policy]
        rfl
      · have hnext (n : Nat) : n + 1 + before.length = n + (before.length + 1) := by omega
        rw [List.cons_append, buildChildren]
        dsimp only
        rw [hl]
        change Built.mk ((buildChildren (last + 1) (position + 1) (before ++ rest)).result.map
          (l.asChild :: ·)) (buildChildren (last + 1) (position + 1) (before ++ rest)).last = _
        rw [hrest rest, hnext, hnext, List.length_cons]
        generalize buildChildren (last + (before.length + 1)) (position + (before.length + 1))
          rest = others
        refine congrArg (Built.mk · others.last) ?_
        cases others with
        | mk result _ => cases result <;> rfl

/-- A group among the children ends the group where it stands, and takes no number. -/
theorem Group.buildChildren_nested {before : List WidgetConfig}
    (hbefore : ∀ child ∈ before, child.IsValidLeaf) (last : Nat) (common : CommonConfig)
    (children after : List WidgetConfig) :
    buildChildren last 0 (before ++ .group common children :: after) =
      ⟨.error .nestedGroup, last + before.length⟩ := by
  obtain ⟨leaves, _, _, hrest⟩ := buildChildren_append hbefore last 0
  rw [hrest]
  rfl

/-- A child that is not valid ends the group as well, but has taken its number. -/
theorem Group.buildChildren_fault {before : List WidgetConfig}
    (hbefore : ∀ child ∈ before, child.IsValidLeaf) {content : LeafConfig} {fault : WidgetFault}
    (hfault : Content.ofConfig content = .error fault) (last : Nat) (common : CommonConfig)
    (after : List WidgetConfig) :
    buildChildren last 0 (before ++ .leaf common content :: after) =
      ⟨.error (.child before.length content.kind fault), last + before.length + 1⟩ := by
  obtain ⟨leaves, _, _, hrest⟩ := buildChildren_append hbefore last 0
  have hresult (n : Nat) : (Leaf.build n common content).result = .error fault := by
    unfold Leaf.build
    rw [hfault]
    rfl
  rw [hrest]
  dsimp only
  rw [buildChildren]
  dsimp only
  rw [hresult, Nat.zero_add]
  rfl

/-- What the entries of children come to, by the first of them that has no place there. -/
inductive Group.Scan : List WidgetConfig → Prop
  | valid {children : List WidgetConfig} (h : ∀ child ∈ children, child.IsValidLeaf) : Scan children
  | invalid {before : List WidgetConfig} {common : CommonConfig} {content : LeafConfig}
      {after : List WidgetConfig} (hbefore : ∀ child ∈ before, child.IsValidLeaf)
      (h : ¬ content.IsValid) : Scan (before ++ .leaf common content :: after)
  | nested {before : List WidgetConfig} {common : CommonConfig} {children after : List WidgetConfig}
      (hbefore : ∀ child ∈ before, child.IsValidLeaf) :
      Scan (before ++ .group common children :: after)

theorem Group.scan (children : List WidgetConfig) : Scan children := by
  rcases forall_mem_or_exists_first WidgetConfig.IsValidLeaf children with
    hall | ⟨before, child, after, rfl, hbefore, hchild⟩
  · exact .valid hall
  · cases child with
    | leaf common content => exact .invalid hbefore hchild
    | group => exact .nested hbefore

/-- The widget of a valid entry is built, and takes one number for each widget in it. -/
theorem Widget.build_of_valid {c : WidgetConfig} (h : c.IsValid) (last : Nat) :
    ∃ w : Widget, build last c = ⟨.ok w, last + c.size⟩ ∧
      w.ids = List.range' (last + 1) c.size ∧ w.Follows c := by
  cases c with
  | leaf common content =>
    obtain ⟨l, hl, hbase, hkind⟩ := Leaf.build_of_valid h last common
    refine ⟨.leaf l, ?_, congrArg ([WidgetBase.id ·]) hbase, ?_⟩
    · unfold build
      dsimp only
      rw [hl]
      rfl
    · exact
        { kind_eq := hkind
          policy_eq := by
            change l.base.refresh.policy = _
            rw [hbase, WidgetBase.ofConfig_policy]
            rfl
          hideHeader := fun hgroup => by cases content <;> cases hgroup
          children := .nil }
  | group common children =>
    obtain ⟨leaves, hids, hleaves, hrest⟩ := Group.buildChildren_append h (last + 1) 0
    have hall := hrest []
    rw [List.append_nil] at hall
    refine ⟨.group (WidgetBase.ofConfig (last + 1) .group common) leaves, ?_, ?_, ?_⟩
    · unfold build
      dsimp only
      rw [hall]
      change Built.mk (Except.ok (Widget.group _ (leaves ++ []))) (last + 1 + children.length) = _
      rw [List.append_nil, Nat.add_right_comm, Nat.add_assoc]
      rfl
    · change (last + 1) :: leaves.map (·.base.id) = _
      rw [hids, ← List.range'_succ]
      rfl
    · exact
        { kind_eq := rfl
          policy_eq := WidgetBase.ofConfig_policy (last + 1) .group common
          hideHeader := fun _ => Bool.or_true common.hideHeader
          children := hleaves }

/-- The widget of an entry can be built if the entry is valid, whatever the number it is to have. -/
theorem Widget.exists_build_iff {last : Nat} {c : WidgetConfig} :
    (∃ w, (build last c).result = .ok w) ↔ c.IsValid := by
  constructor
  · rintro ⟨w, hw⟩
    cases c with
    | leaf common content =>
      obtain ⟨l, hl, _⟩ := exists_of_map_eq_ok hw
      obtain ⟨built, hbuilt, _⟩ := exists_of_map_eq_ok hl
      exact Content.exists_ofConfig_iff.1 ⟨built, hbuilt⟩
    | group common children =>
      obtain ⟨leaves, hleaves, _⟩ := exists_of_map_eq_ok hw
      cases Group.scan children with
      | valid h => exact h
      | invalid hbefore h =>
        obtain ⟨fault, hfault⟩ := Content.exists_fault h
        rw [Group.buildChildren_fault hbefore hfault] at hleaves
        cases hleaves
      | nested hbefore =>
        rw [Group.buildChildren_nested hbefore] at hleaves
        cases hleaves
  · intro h
    obtain ⟨w, hw, _⟩ := build_of_valid h last
    exact ⟨w, congrArg Built.result hw⟩

end DashboardRefresh
