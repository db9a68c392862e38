import VdrSuite.Library.Table
import Mathlib.Data.List.Induction

/-! A list overridden by another one, item after item: what a key decides about it, and when two keys
decide the same. -/

set_option autoImplicit false

namespace VdrSuite.Library.Override

variable {Item Key : Type} [DecidableEq Key] (key : Item → Key)

@[grind =] def first (item : Item) (items : List Item) : Option Item :=
  items.find? fun other => key other = key item

/-- An item takes the place of the first one with its key, or else the place behind all others. -/
@[grind =] def place (item : Item) : List Item → List Item
  | [] => [item]
  | other :: rest => if key other = key item then item :: rest else other :: place item rest

def override (items incoming : List Item) : List Item :=
  incoming.foldl (fun items item => place key item items) items

@[simp] theorem override_nil (items : List Item) : override key items [] = items := rfl

theorem override_concat (items incoming : List Item) (item : Item) :
    override key items (incoming ++ [item]) = place key item (override key items incoming) := by
  rw [override, List.foldl_concat]
  rfl

variable {key}

theorem key_of_first {item other : Item} {items : List Item} (found : first key item items = some other) :
    key other = key item := by
  simpa using List.find?_some found

theorem mem_of_first {item other : Item} {items : List Item} (found : first key item items = some other) :
    other ∈ items :=
  List.mem_of_find?_eq_some found

theorem first_eq_none_iff {item : Item} {items : List Item} :
    first key item items = none ↔ key item ∉ items.map key := by
  simp [first, List.find?_eq_none]

theorem first_cons (item other : Item) (rest : List Item) :
    first key item (other :: rest) =
      if key other = key item then some other else first key item rest := by
  rw [first, List.find?_cons]
  by_cases same : key other = key item
  · simp [same]
  · simp [same, first]

theorem first_append (item : Item) (items more : List Item) :
    first key item (items ++ more) = (first key item items).or (first key item more) :=
  List.find?_append

theorem first_congr {item other : Item} (same : key item = key other) (items : List Item) :
    first key item items = first key other items := by
  rw [first, first, same]

theorem first_of_mem {item other : Item} {items : List Item} (keyed : Table.Keyed key items)
    (member : other ∈ items) (same : key other = key item) : first key item items = some other := by
  cases found : first key item items with
  | none =>
    have absent := (first_eq_none_iff).mp found
    exact absurd (List.mem_map.mpr ⟨other, member, same⟩) absent
  | some another =>
    have equal := List.inj_on_of_nodup_map keyed (mem_of_first found) member
      ((key_of_first found).trans same.symm)
    rw [equal]

/-! ## One item -/

theorem place_of_first_none {item : Item} {items : List Item}
    (absent : first key item items = none) : place key item items = items ++ [item] := by
  induction items with
  | nil => rfl
  | cons other rest ih =>
    rw [first_cons] at absent
    split at absent
    · cases absent
    · next different => rw [place, if_neg different, ih absent, List.cons_append]

/-- Taking the place of an item that is alike in some respect changes nothing in that respect. -/
theorem map_place_of_first_some {Aspect : Type} {aspect : Item → Aspect} {item other : Item}
    {items : List Item} (present : first key item items = some other)
    (alike : aspect other = aspect item) : (place key item items).map aspect = items.map aspect := by
  induction items with
  | nil => cases present
  | cons head rest ih =>
    rw [first_cons] at present
    rw [place]
    split
    · next same =>
      rw [if_pos same] at present
      cases present
      rw [List.map_cons, List.map_cons, alike]
    · next different =>
      rw [if_neg different] at present
      rw [List.map_cons, List.map_cons, ih present]

theorem keyed_place {items : List Item} (keyed : Table.Keyed key items) (item : Item) :
    Table.Keyed key (place key item items) := by
  cases found : first key item items with
  | none =>
    rw [place_of_first_none found]
    refine Table.keyed_append_new key keyed ?_
    rw [Table.lookup_eq_none_iff]
    exact (first_eq_none_iff).mp found
  | some other =>
    unfold Table.Keyed
    rw [map_place_of_first_some found (key_of_first found)]
    exact keyed

theorem getElem?_place {item other : Item} {items : List Item} {position : Nat}
    (there : items[position]? = some other) (different : key other ≠ key item) :
    (place key item items)[position]? = some other := by
  induction items generalizing position with
  | nil => cases there
  | cons head rest ih =>
    cases position with
    | zero =>
      cases there
      rw [place, if_neg different]
      rfl
    | succ position =>
      rw [List.getElem?_cons_succ] at there
      rw [place]
      split
      · exact there
      · exact ih there

theorem first_place_self (item : Item) (items : List Item) :
    first key item (place key item items) = some item := by
  induction items with
  | nil => simp [first, place]
  | cons other rest ih =>
    rw [place]
    split
    · rw [first_cons, if_pos rfl]
    · next different => rw [first_cons, if_neg different, ih]

theorem first_place_other {item wanted : Item} (different : key item ≠ key wanted)
    (items : List Item) : first key wanted (place key item items) = first key wanted items := by
  induction items with
  | nil => simp [first, place, different]
  | cons other rest ih =>
    rw [place]
    split
    · next same => rw [first_cons, first_cons, if_neg different, if_neg (same ▸ different)]
    · rw [first_cons, first_cons, ih]

/-! ## All items -/

theorem keyed_override {items : List Item} (keyed : Table.Keyed key items) (incoming : List Item) :
    Table.Keyed key (override key items incoming) := by
  induction incoming using List.reverseRecOn with
  | nil => exact keyed
  | append_singleton earlier item ih =>
    rw [override_concat]
    exact keyed_place ih item

theorem getElem?_override {other : Item} {items incoming : List Item} {position : Nat}
    (there : items[position]? = some other) (absent : key other ∉ incoming.map key) :
    (override key items incoming)[position]? = some other := by
  induction incoming using List.reverseRecOn with
  | nil => exact there
  | append_singleton earlier item ih =>
    rw [List.map_append, List.mem_append, not_or] at absent
    rw [override_concat]
    exact getElem?_place (ih absent.1) (by simpa using absent.2)

theorem first_override (wanted : Item) (items incoming : List Item) :
    first key wanted (override key items incoming) =
      (first key wanted incoming.reverse).or (first key wanted items) := by
  induction incoming using List.reverseRecOn with
  | nil => rfl
  | append_singleton earlier item ih =>
    rw [override_concat, List.reverse_concat, first_cons]
    split
    · next same => rw [first_congr same.symm, first_place_self, Option.some_or]
    · next different => rw [first_place_other different, ih]

theorem mem_keys_override {items incoming : List Item} {item : Item} (member : item ∈ incoming) :
    key item ∈ (override key items incoming).map key := by
  by_contra absent
  have none := (first_eq_none_iff).mpr absent
  rw [first_override, Option.or_eq_none_iff] at none
  refine (first_eq_none_iff).mp none.1 ?_
  rw [List.map_reverse, List.mem_reverse]
  exact List.mem_map_of_mem member

theorem map_key_override {items incoming : List Item}
    (known : ∀ item ∈ incoming, key item ∈ items.map key) :
    (override key items incoming).map key = items.map key := by
  induction incoming using List.reverseRecOn with
  | nil => rfl
  | append_singleton earlier item ih =>
    have before := ih fun other member => known other (List.mem_append_left _ member)
    have member := known item (by simp)
    rw [override_concat]
    cases found : first key item (override key items earlier) with
    | none => exact absurd (before ▸ member) ((first_eq_none_iff).mp found)
    | some other => rw [map_place_of_first_some found (key_of_first found), before]

theorem eq_of_first_eq {items others : List Item} (keyed : Table.Keyed key items)
    (keys : others.map key = items.map key)
    (same : ∀ item, first key item others = first key item items) : others = items := by
  have otherKeyed : Table.Keyed key others := by
    unfold Table.Keyed
    rw [keys]
    exact keyed
  refine List.ext_getElem? fun position => ?_
  have equal := congrArg (·[position]?) keys
  simp only [List.getElem?_map] at equal
  cases there : others[position]? with
  | none =>
    rw [there, Option.map_none, eq_comm, Option.map_eq_none_iff] at equal
    exact equal.symm
  | some other =>
    rw [there, Option.map_some, eq_comm, Option.map_eq_some_iff] at equal
    obtain ⟨item, here, sameKey⟩ := equal
    have left := first_of_mem otherKeyed (List.mem_of_getElem? there) sameKey.symm
    have right := first_of_mem keyed (List.mem_of_getElem? here) rfl
    rw [same, right] at left
    rw [here, left]

theorem override_override {items : List Item} (keyed : Table.Keyed key items)
    (incoming : List Item) :
    override key (override key items incoming) incoming = override key items incoming := by
  have whole := keyed_override keyed incoming
  refine eq_of_first_eq whole (map_key_override fun item member => ?_) fun wanted => ?_
  · exact mem_keys_override member
  · rw [first_override, first_override, ← Option.or_assoc, Option.or_self]

/-- Where the first items of a list and of another one are alike in some respect, they still are
after one more item, if it is like the one whose place it takes. -/
theorem map_first_place {Aspect : Type} {aspect : Item → Aspect} {placed raw : List Item} {item : Item}
    (same : ∀ wanted, (first key wanted placed).map aspect = (first key wanted raw).map aspect)
    (replaced : ∀ other, first key item placed = some other → aspect other = aspect item)
    (wanted : Item) :
    (first key wanted (place key item placed)).map aspect =
      (first key wanted (raw ++ [item])).map aspect := by
  by_cases equal : key item = key wanted
  · rw [← first_congr equal, ← first_congr equal, first_place_self, first_append]
    cases there : first key item placed with
    | none =>
      have absent := same item
      rw [there, Option.map_none, eq_comm, Option.map_eq_none_iff] at absent
      rw [absent, Option.none_or, first_cons, if_pos rfl]
    | some other =>
      have present := same item
      rw [there, Option.map_some, eq_comm, Option.map_eq_some_iff] at present
      obtain ⟨old, found, alike⟩ := present
      rw [found, Option.some_or, Option.map_some, Option.map_some, alike, replaced other there]
  · rw [first_place_other equal, same, first_append]
    have apart : first key wanted [item] = none := by
      rw [first_cons, if_neg equal]
      rfl
    rw [apart, Option.or_none]

/-! ## Two keys -/

def Along (Holds : List Item → Item → Prop) (incoming : List Item) : Prop :=
  ∀ earlier item later, incoming = earlier ++ item :: later → Holds earlier item

theorem along_concat {Holds : List Item → Item → Prop} {incoming : List Item} {item : Item} :
    Along Holds (incoming ++ [item]) ↔ Along Holds incoming ∧ Holds incoming item := by
  constructor
  · intro all
    refine ⟨fun earlier other later split => all earlier other (later ++ [item]) ?_,
      all incoming item [] rfl⟩
    rw [split, List.append_assoc, List.cons_append]
  · rintro ⟨before, last⟩ earlier other later split
    cases later using List.reverseRecOn with
    | nil =>
      obtain ⟨rfl, same⟩ := List.append_inj' split rfl
      cases same
      exact last
    | append_singleton later final =>
      rw [← List.cons_append, ← List.append_assoc] at split
      obtain ⟨same, -⟩ := List.append_inj' split rfl
      exact before earlier other later same

section
variable {Name : Type} [DecidableEq Name] (name : Item → Name) (key : Item → Key)

@[grind =] def Agree (items : List Item) (item : Item) : Prop := first name item items = first key item items

def tags (item : Item) : Name × Key := (name item, key item)

variable {name key}

theorem agree_iff {items : List Item} {item : Item} :
    Agree name key items item ↔
      (first name item items).map (tags name key) = (first key item items).map (tags name key) := by
  constructor
  · intro same
    rw [same]
  · intro same
    induction items with
    | nil => rfl
    | cons other rest ih =>
      rw [first_cons, first_cons] at same
      rw [Agree, first_cons, first_cons]
      split at same
      · next named =>
        split at same
        · next keyed => rw [if_pos named, if_pos keyed]
        · next unkeyed =>
          rw [Option.map_some, eq_comm, Option.map_eq_some_iff] at same
          obtain ⟨another, found, equal⟩ := same
          have keyed : key another = key other := congrArg Prod.snd equal
          exact absurd (keyed.symm.trans (key_of_first found)) unkeyed
      · next unnamed =>
        split at same
        · next keyed =>
          rw [Option.map_some, Option.map_eq_some_iff] at same
          obtain ⟨another, found, equal⟩ := same
          have named : name another = name other := congrArg Prod.fst equal
          exact absurd (named.symm.trans (key_of_first found)) unnamed
        · next unkeyed =>
          rw [if_neg unnamed, if_neg unkeyed]
          exact ih same

theorem place_eq_of_agree {items : List Item} {item : Item} (agree : Agree name key items item) :
    place name item items = place key item items := by
  induction items with
  | nil => rfl
  | cons other rest ih =>
    rw [Agree, first_cons, first_cons] at agree
    rw [place, place]
    split
    · next named =>
      rw [if_pos named] at agree
      split
      · rfl
      · next unkeyed =>
        rw [if_neg unkeyed] at agree
        exact absurd (key_of_first agree.symm) unkeyed
    · next unnamed =>
      rw [if_neg unnamed] at agree
      split
      · next keyed =>
        rw [if_pos keyed] at agree
        exact absurd (key_of_first agree) unnamed
      · next unkeyed =>
        rw [if_neg unkeyed] at agree
        rw [ih agree]

/-- The items found by name, and by key, have the tags of the items that were there first. -/
structure SameTags (name : Item → Name) (key : Item → Key) (placed raw : List Item) : Prop where
  byName : ∀ wanted, (first name wanted placed).map (tags name key) =
    (first name wanted raw).map (tags name key)
  byKey : ∀ wanted, (first key wanted placed).map (tags name key) =
    (first key wanted raw).map (tags name key)

theorem SameTags.agree_iff {placed raw : List Item} (same : SameTags name key placed raw)
    (item : Item) : Agree name key placed item ↔ Agree name key raw item := by
  rw [Override.agree_iff, Override.agree_iff, same.byName, same.byKey]

theorem SameTags.place {placed raw : List Item} (same : SameTags name key placed raw) {item : Item}
    (agree : Agree name key placed item) :
    SameTags name key (place key item placed) (raw ++ [item]) := by
  have tagged {other : Item} (named : first name item placed = some other) :
      tags name key other = tags name key item := by
    have keyed : first key item placed = some other := agree ▸ named
    have sameName : name other = name item := key_of_first named
    have sameKey : key other = key item := key_of_first keyed
    rw [tags, tags, sameName, sameKey]
  constructor
  · rw [← place_eq_of_agree agree]
    exact map_first_place same.byName fun other named => tagged named
  · exact map_first_place same.byKey fun other keyed => tagged (agree.symm ▸ keyed)

/-- As long as names and keys agree at every item, it does not matter which of them decides. -/
theorem override_of_agree {items incoming : List Item}
    (agree : Along (fun earlier => Agree name key (override name items earlier)) incoming) :
    override name items incoming = override key items incoming ∧
      SameTags name key (override key items incoming) (items ++ incoming) := by
  induction incoming using List.reverseRecOn with
  | nil =>
    refine ⟨rfl, ?_⟩
    rw [List.append_nil]
    exact ⟨fun _ => rfl, fun _ => rfl⟩
  | append_singleton earlier item ih =>
    obtain ⟨before, last⟩ := (along_concat).mp agree
    obtain ⟨equal, same⟩ := ih before
    rw [equal] at last
    rw [override_concat, override_concat, equal, ← List.append_assoc]
    exact ⟨place_eq_of_agree last, same.place last⟩

theorem along_agree_iff {items incoming : List Item} :
    Along (fun earlier => Agree name key (override name items earlier)) incoming ↔
      Along (fun earlier => Agree name key (items ++ earlier)) incoming := by
  induction incoming using List.reverseRecOn with
  | nil => exact iff_of_true (by simp [Along]) (by simp [Along])
  | append_singleton earlier item ih =>
    rw [along_concat, along_concat, ← ih]
    refine and_congr_right fun before => ?_
    obtain ⟨equal, same⟩ := override_of_agree before
    rw [equal]
    exact same.agree_iff item

def Apart (name : Item → Name) (key : Item → Key) (items : List Item) (incoming : List Item) : Prop :=
  Along (fun earlier item => ∀ other, first name item (override name items earlier) = some other →
    key other = key item) incoming

omit [DecidableEq Key] in
theorem Apart.keys_prefix {items earlier later : List Item}
    (apart : Apart name key items (earlier ++ later)) :
    (override name items earlier).map key <+: (override name items (earlier ++ later)).map key := by
  induction later using List.reverseRecOn with
  | nil =>
    exact ⟨[], by rw [List.append_nil, List.append_nil]⟩
  | append_singleton later item ih =>
    rw [← List.append_assoc] at apart ⊢
    obtain ⟨before, last⟩ := (along_concat).mp apart
    rw [override_concat]
    refine (ih before).trans ?_
    cases found : first name item (override name items (earlier ++ later)) with
    | none =>
      rw [place_of_first_none found, List.map_append]
      exact List.prefix_append _ _
    | some other =>
      exact ⟨[], by rw [List.append_nil, map_place_of_first_some found (last other found)]⟩

/-- If names override as keys do and nothing takes a place of another key, both agree all along. -/
theorem Apart.agree {items incoming : List Item} (keyed : Table.Keyed key items)
    (same : override name items incoming = override key items incoming)
    (apart : Apart name key items incoming) :
    Along (fun earlier => Agree name key (override name items earlier)) incoming := by
  intro earlier item later split
  have whole : Table.Keyed key (override name items incoming) := by
    rw [same]
    exact keyed_override keyed incoming
  rw [List.append_cons] at split
  have longer : Table.Keyed key (override name items (earlier ++ [item])) :=
    whole.sublist (split ▸ Apart.keys_prefix (split ▸ apart)).sublist
  rw [override_concat] at longer
  have own := apart earlier item later (by rw [split, ← List.append_cons])
  cases found : first name item (override name items earlier) with
  | none =>
    rw [place_of_first_none found] at longer
    unfold Table.Keyed at longer
    rw [List.map_append, List.nodup_append] at longer
    rw [Agree, found, eq_comm, first_eq_none_iff]
    exact fun member => longer.2.2 _ member _ (by simp) rfl
  | some other =>
    unfold Table.Keyed at longer
    rw [map_place_of_first_some found (own other found)] at longer
    rw [Agree, found, first_of_mem longer (mem_of_first found) (own other found)]

theorem apart_of_agree {items incoming : List Item}
    (agree : Along (fun earlier => Agree name key (override name items earlier)) incoming) :
    Apart name key items incoming := by
  intro earlier item later split other found
  have same : Agree name key (override name items earlier) item := agree earlier item later split
  rw [Agree, found] at same
  exact key_of_first same.symm

theorem Agree.append {items more : List Item} {item : Item} (agree : Agree name key items item)
    (later : Agree name key more item) : Agree name key (items ++ more) item := by
  unfold Agree at *
  rw [first_append, first_append, agree, later]

theorem Agree.append_of_mem {items : List Item} {item : Item} (agree : Agree name key items item)
    (member : key item ∈ items.map key) (more : List Item) : Agree name key (items ++ more) item := by
  unfold Agree at *
  rw [first_append, first_append, agree]
  cases found : first key item items with
  | none => exact absurd member ((first_eq_none_iff).mp found)
  | some other => rw [Option.some_or, Option.some_or]

theorem along_agree_again {items incoming : List Item}
    (agree : Along (fun earlier => Agree name key (items ++ earlier)) incoming) :
    Along (fun earlier => Agree name key (override key items incoming ++ earlier)) incoming := by
  intro earlier item later split
  obtain ⟨-, same⟩ := override_of_agree ((along_agree_iff).mpr agree)
  have own : Agree name key (item :: later) item := by
    rw [Agree, first_cons, first_cons, if_pos rfl, if_pos rfl]
  have raw := (agree earlier item later split).append own
  rw [List.append_assoc, ← split, ← same.agree_iff] at raw
  exact raw.append_of_mem (mem_keys_override (split ▸ by simp)) earlier

end

end VdrSuite.Library.Override
