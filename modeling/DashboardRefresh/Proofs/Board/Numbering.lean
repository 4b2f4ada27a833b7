import DashboardRefresh.Proofs.Board.Validity
import Mathlib.Algebra.GroupWithZero.Nat

/-!
# The numbers of widgets

How many numbers an entry takes can be read off the entry. One that is no group takes a single
number, and a group takes one for itself and one for each child that is tried. Whatever cannot be
built on the way, the numbers of the widgets that have been built increase in pre-order.
-/

namespace DashboardRefresh

namespace WidgetConfig

/-- How many numbers are taken for an entry, whether its widget can be built or not. The children of
a group are tried in turn, up to and including the first that is not valid, but not a group. -/
inductive Takes : WidgetConfig → Nat → Prop
  | leaf {common : CommonConfig} {content : LeafConfig} : Takes (.leaf common content) 1
  | group {common : CommonConfig} {children : List WidgetConfig}
      (h : ∀ child ∈ children, child.IsValidLeaf) :
      Takes (.group common children) (1 + children.length)
  | invalid {common childCommon : CommonConfig} {before after : List WidgetConfig}
      {content : LeafConfig} (hbefore : ∀ child ∈ before, child.IsValidLeaf)
      (h : ¬ content.IsValid) :
      Takes (.group common (before ++ .leaf childCommon content :: after)) (1 + (before.length + 1))
  | nested {common childCommon : CommonConfig} {before children after : List WidgetConfig}
      (hbefore : ∀ child ∈ before, child.IsValidLeaf) :
      Takes (.group common (before ++ .group childCommon children :: after)) (1 + before.length)

theorem exists_takes (c : WidgetConfig) : ∃ n, c.Takes n := by
  cases c with
  | leaf => exact ⟨_, .leaf⟩
  | group common children =>
    cases Group.scan children with
    | valid h => exact ⟨_, .group h⟩
    | invalid hbefore h => exact ⟨_, .invalid hbefore h⟩
    | nested hbefore => exact ⟨_, .nested hbefore⟩

theorem Takes.last_build {c : WidgetConfig} {n : Nat} (h : c.Takes n) (last : Nat) :
    (Widget.build last c).last = last + n := by
  cases h with
  | leaf => rfl
  | @group common children h =>
    obtain ⟨w, hw, _⟩ := Widget.build_of_valid (c := .group common children) h last
    calc (Widget.build last (.group common children)).last
      _ = last + (children.length + 1) := congrArg Built.last hw
      _ = last + (1 + children.length) := by rw [Nat.add_comm 1]
  | invalid hbefore h =>
    obtain ⟨fault, hfault⟩ := Content.exists_fault h
    change (Group.buildChildren (last + 1) 0 _).last = _
    rw [Group.buildChildren_fault hbefore hfault, Nat.add_assoc, Nat.add_assoc]
  | nested hbefore =>
    change (Group.buildChildren (last + 1) 0 _).last = _
    rw [Group.buildChildren_nested hbefore, Nat.add_assoc]

/-- The entry alone decides how many numbers are taken. -/
theorem takes_iff_last_build {c : WidgetConfig} {last n : Nat} :
    c.Takes n ↔ (Widget.build last c).last = last + n := by
  refine ⟨fun h => h.last_build last, fun h => ?_⟩
  obtain ⟨m, hm⟩ := c.exists_takes
  have hmn : m = n := Nat.add_left_cancel ((hm.last_build last).symm.trans h)
  exact hmn ▸ hm

theorem IsValid.takes {c : WidgetConfig} (h : c.IsValid) : c.Takes c.size := by
  obtain ⟨w, hw, _⟩ := Widget.build_of_valid h 0
  exact takes_iff_last_build.2 (congrArg Built.last hw)

end WidgetConfig

namespace Widget

theorem ids_of_build {last : Nat} {c : WidgetConfig} {w : Widget}
    (h : (build last c).result = .ok w) :
    (build last c).last = last + c.size ∧ w.ids = List.range' (last + 1) c.size ∧ w.Follows c := by
  obtain ⟨v, hv, hids, hfollows⟩ := build_of_valid (exists_build_iff.1 ⟨w, h⟩) last
  rw [hv] at h ⊢
  cases h
  exact ⟨rfl, hids, hfollows⟩

/-- The numbers of the widgets that have been built, in pre-order. -/
def idsOf (results : List (Except WidgetFault Widget)) : List Nat :=
  (results.filterMap Except.toOption).flatMap ids

theorem idsOf_error_cons {fault : WidgetFault} {results : List (Except WidgetFault Widget)} :
    idsOf (.error fault :: results) = idsOf results := rfl

theorem idsOf_ok_cons {w : Widget} {results : List (Except WidgetFault Widget)} :
    idsOf (.ok w :: results) = w.ids ++ idsOf results := rfl

theorem le_last_build (last : Nat) (c : WidgetConfig) : last ≤ (build last c).last := by
  obtain ⟨n, hn⟩ := c.exists_takes
  exact hn.last_build last ▸ Nat.le_add_right last n

/-- New numbers come after those that have been taken. -/
theorem mem_idsOf_buildAll {last id : Nat} {configs : List WidgetConfig}
    (h : id ∈ idsOf (buildAll last configs).1) : last < id := by
  induction configs generalizing last with
  | nil => cases h
  | cons c rest ih =>
    have hrest (h : id ∈ idsOf (buildAll (build last c).last rest).1) : last < id :=
      Nat.lt_of_le_of_lt (le_last_build last c) (ih h)
    change id ∈ idsOf ((build last c).result :: (buildAll (build last c).last rest).1) at h
    cases hresult : (build last c).result with
    | error fault =>
      rw [hresult, idsOf_error_cons] at h
      exact hrest h
    | ok w =>
      rw [hresult, idsOf_ok_cons] at h
      rcases List.mem_append.1 h with h | h
      · rw [(ids_of_build hresult).2.1] at h
        exact (List.mem_range'_1.1 h).1
      · exact hrest h

theorem pairwise_idsOf_buildAll (last : Nat) (configs : List WidgetConfig) :
    (idsOf (buildAll last configs).1).Pairwise (· < ·) := by
  induction configs generalizing last with
  | nil => exact .nil
  | cons c rest ih =>
    change (idsOf ((build last c).result :: (buildAll (build last c).last rest).1)).Pairwise _
    cases hresult : (build last c).result with
    | error fault => exact ih _
    | ok w =>
      obtain ⟨hlast, hids, _⟩ := ids_of_build hresult
      rw [idsOf_ok_cons, hids]
      -- All that is built later has numbers beyond those of this widget.
      refine List.pairwise_append.2 ⟨List.pairwise_lt_range', ih _, fun a ha b hb => ?_⟩
      calc a
        _ < last + 1 + c.size := (List.mem_range'_1.1 ha).2
        _ = (build last c).last + 1 := by rw [hlast, Nat.add_right_comm]
        _ ≤ b := mem_idsOf_buildAll hb

/-- Where nothing fails, one number is taken for each widget. -/
theorem buildAll_of_forall_ok {last : Nat} {configs : List WidgetConfig}
    (h : ∀ result ∈ (buildAll last configs).1, ∃ w, result = .ok w) :
    idsOf (buildAll last configs).1 =
        List.range' (last + 1) (configs.map WidgetConfig.size).sum ∧
      (buildAll last configs).2 = last + (configs.map WidgetConfig.size).sum := by
  induction configs generalizing last with
  | nil => exact ⟨rfl, rfl⟩
  | cons c rest ih =>
    obtain ⟨⟨w, hw⟩, hrest⟩ := List.forall_mem_cons.1 h
    obtain ⟨hlast, hids, _⟩ := ids_of_build hw
    obtain ⟨ihids, ihlast⟩ := ih hrest
    have hcons : (buildAll last (c :: rest)).1 =
        .ok w :: (buildAll (build last c).last rest).1 := congrArg (· :: _) hw
    rw [List.map_cons, List.sum_cons]
    constructor
    · calc idsOf (buildAll last (c :: rest)).1
        _ = w.ids ++ idsOf (buildAll (build last c).last rest).1 := by rw [hcons, idsOf_ok_cons]
        _ = List.range' (last + 1) c.size ++
              List.range' (last + c.size + 1) (rest.map WidgetConfig.size).sum := by
          rw [hids, ihids, hlast]
        _ = List.range' (last + 1) (c.size + (rest.map WidgetConfig.size).sum) := by
          rw [Nat.add_right_comm, List.range'_append_1]
    · calc (buildAll last (c :: rest)).2
        _ = (build last c).last + (rest.map WidgetConfig.size).sum := ihlast
        _ = last + (c.size + (rest.map WidgetConfig.size).sum) := by rw [hlast, Nat.add_assoc]

/-- The numbers that each entry takes, and where those of its widget begin. -/
theorem exists_taken (last : Nat) (configs : List WidgetConfig) :
    ∃ taken : List Nat, List.Forall₂ WidgetConfig.Takes configs taken ∧
      (buildAll last configs).1.length = configs.length ∧
      (buildAll last configs).2 = last + taken.sum ∧
      ∀ (i : Nat) (c : WidgetConfig), configs[i]? = some c →
        (buildAll last configs).1[i]? = some (build (last + (taken.take i).sum) c).result := by
  induction configs generalizing last with
  | nil => exact ⟨[], .nil, rfl, rfl, fun i c h => by cases h⟩
  | cons c rest ih =>
    obtain ⟨n, hn⟩ := c.exists_takes
    obtain ⟨taken, htaken, hlength, hlast, hresults⟩ := ih (build last c).last
    refine ⟨n :: taken, .cons hn htaken, congrArg (· + 1) hlength, ?_, fun i d hd => ?_⟩
    · calc (buildAll last (c :: rest)).2
        _ = (build last c).last + taken.sum := hlast
        _ = last + (n :: taken).sum := by rw [hn.last_build, List.sum_cons, Nat.add_assoc]
    · cases i with
      | zero =>
        cases hd
        rfl
      | succ i =>
        calc (buildAll last (c :: rest)).1[i + 1]?
          _ = some (build ((build last c).last + (taken.take i).sum) d).result := hresults i d hd
          _ = some (build (last + ((n :: taken).take (i + 1)).sum) d).result := by
            rw [hn.last_build, List.take_succ_cons, List.sum_cons, Nat.add_assoc]

/-- Widgets are built from any entries, one after the other, going on after those that cannot be
built. Their numbers strictly increase in pre-order, children included, so that no two are the same.
An entry takes a number of its own and, if it is a group, one for each child that is tried; where
its widget is built, it has these numbers. If nothing fails, the numbers are those from one on, and
the next widget has the one after them. -/
theorem buildAll_numbers (configs : List WidgetConfig) :
    (∀ (c : WidgetConfig) (last n : Nat), c.Takes n ↔ (build last c).last = last + n) ∧
      (∃ taken : List Nat, List.Forall₂ WidgetConfig.Takes configs taken ∧
        (buildAll 0 configs).1.length = configs.length ∧
        (buildAll 0 configs).2 = taken.sum ∧
        ∀ (i : Nat) (c : WidgetConfig) (w : Widget), configs[i]? = some c →
          (buildAll 0 configs).1[i]? = some (.ok w) →
            w.Follows c ∧ c.Takes c.size ∧ w.ids = List.range' ((taken.take i).sum + 1) c.size) ∧
      (idsOf (buildAll 0 configs).1).Pairwise (· < ·) ∧
      ((∀ result ∈ (buildAll 0 configs).1, ∃ w, result = .ok w) →
        let size := (configs.map WidgetConfig.size).sum
        idsOf (buildAll 0 configs).1 = List.range' 1 size ∧
          (buildAll 0 configs).2 = size ∧
          ∀ (c : WidgetConfig) (w : Widget),
            (build (buildAll 0 configs).2 c).result = .ok w → w.base.id = size + 1) := by
  refine ⟨fun _ _ _ => WidgetConfig.takes_iff_last_build, ?_, pairwise_idsOf_buildAll 0 configs,
    fun hall => ?_⟩
  · obtain ⟨taken, htaken, hlength, hlast, hresults⟩ := exists_taken 0 configs
    rw [Nat.zero_add] at hlast
    refine ⟨taken, htaken, hlength, hlast, fun i c w hc hw => ?_⟩
    have hresult : (build (0 + (taken.take i).sum) c).result = .ok w :=
      Option.some.inj ((hresults i c hc).symm.trans hw)
    obtain ⟨_, hids, hfollows⟩ := ids_of_build hresult
    rw [Nat.zero_add] at hids
    exact ⟨hfollows, (exists_build_iff.1 ⟨w, hresult⟩).takes, hids⟩
  · obtain ⟨hids, hlast⟩ := buildAll_of_forall_ok hall
    rw [Nat.zero_add] at hids hlast
    refine ⟨hids, hlast, fun c w hw => ?_⟩
    have hw := (ids_of_build hw).2.1
    rw [hlast] at hw
    exact (List.cons.inj hw).1

/-- A note, a group of a calendar and the note, and an entry that can be something else. -/
def leaflet (last : WidgetConfig) : List WidgetConfig :=
  let note : WidgetConfig := .leaf ⟨none, none, false, none, none⟩ (.html "note")
  let calendar : WidgetConfig := .leaf ⟨none, none, false, none, none⟩ (.calendar true)
  [note, .group ⟨none, none, true, none, none⟩ [calendar, note], last]

/-- With a second calendar at its end the leaflet has the numbers one to five. -/
theorem buildAll_numbers_leaflet :
    let entries := leaflet (.leaf ⟨none, none, false, none, none⟩ (.calendar false))
    (∀ result ∈ (buildAll 0 entries).1, ∃ w, result = .ok w) ∧
      idsOf (buildAll 0 entries).1 = [1, 2, 3, 4, 5] ∧ (buildAll 0 entries).2 = 5 := by
  intro entries
  have hall : ∀ result ∈ (buildAll 0 entries).1, ∃ w, result = .ok w :=
    List.forall_mem_cons.2 ⟨⟨_, rfl⟩, List.forall_mem_cons.2
      ⟨⟨_, rfl⟩, List.forall_mem_singleton.2 ⟨_, rfl⟩⟩⟩
  obtain ⟨_, _, _, hnumbers⟩ := buildAll_numbers entries
  exact ⟨hall, (hnumbers hall).1, (hnumbers hall).2.1⟩

/-- A group that fails at the first of its two children takes two numbers. -/
example :
    let api : WidgetConfig := .leaf ⟨none, none, false, none, none⟩ (.customApi ⟨" ", [], none⟩)
    let entries := leaflet (.group ⟨none, none, false, none, none⟩ [api, api])
    idsOf (buildAll 0 entries).1 = [1, 2, 3, 4] ∧ (buildAll 0 entries).2 = 6 := by
  decide

end Widget

end DashboardRefresh
