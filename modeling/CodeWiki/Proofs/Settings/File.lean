import CodeWiki.Proofs.Yaml.Record
import Mathlib.Data.List.Forall2

/-! Settings from a document. A section that gives values of the right kinds is read into its part
of the settings, where these values replace the ones at hand; the document does the same with its
sections. What is not given stays as it is, in a section as well as beside it. -/
namespace CodeWiki

open Yaml (Node Member)
open Yaml.Member (Commute put)

theorem exists_of_forall₂ {α β : Type} {r : α → β → Prop} {l : List α} {l' : List β} {a : α}
    (paired : List.Forall₂ r l l') (member : a ∈ l) : ∃ b ∈ l', r a b := by
  induction paired with
  | nil => cases member
  | cons first _ ih =>
    rcases List.mem_cons.mp member with rfl | later
    · exact ⟨_, List.mem_cons_self, first⟩
    · obtain ⟨b, listed, related⟩ := ih later
      exact ⟨b, List.mem_cons_of_mem _ listed, related⟩

namespace Settings

section Sections

variable {α : Type} {root node : Node} {members : Node → List (Member α)} {m : Member α}
  {kinds : List (Text × SettingKind)} {fields : List (Text × Node)} {bound : Nat}
  {replaced : α → (Text → Option SettingValue) → α}

/-- A member that can be set just if the value is of the kind that its name has. -/
def Fits (root : Node) (m : Member α) (field : Text × SettingKind) : Prop :=
  m.name = field.1 ∧ ∀ node a, (m.set? node a).isSome = (field.2.read? root node).isSome

theorem fits_natural {name : String} {store : Nat → α → α} :
    Fits root (.of name (root.natural? bound) store) (name.toList, .natural bound) :=
  ⟨rfl, fun node a => by simp [Member.of, SettingKind.read?]⟩

theorem fits_number {name : String} {store : Floating → α → α} :
    Fits root (.of name root.double? store) (name.toList, .number) :=
  ⟨rfl, fun node a => by simp [Member.of, SettingKind.read?]⟩

theorem fits_texts {name : String} {store : List Text → α → α} :
    Fits root (.of name root.texts? store) (name.toList, .texts) :=
  ⟨rfl, fun node a => by simp [Member.of, SettingKind.read?]⟩

/-- The members of a section store values of its kinds, each in a place of its own, and together
they replace what is given. -/
structure Reads (members : Node → List (Member α)) (kinds : List (Text × SettingKind))
    (replaced : α → (Text → Option SettingValue) → α) : Prop where
  commute : ∀ root, (members root).Pairwise Commute
  fits : ∀ root, List.Forall₂ (Fits root) (members root) kinds
  apart : (kinds.map Prod.fst).Nodup
  foldl_put : ∀ root fields a, (members root).foldl (put fields) a =
    replaced a (valueIn? root kinds fields)
  kept : ∀ a, replaced a (fun _ => none) = a

theorem names_of_fits {l : List (Member α)} (fits : List.Forall₂ (Fits root) l kinds) :
    l.map Member.name = kinds.map Prod.fst := by
  induction fits with
  | nil => rfl
  | cons first _ ih => rw [List.map_cons, List.map_cons, first.1, ih]

/-- A section with values of the right kinds is read, and what it gives is replaced. -/
theorem Reads.readRecord? (reads : Reads members kinds replaced)
    (isSection : IsSection root kinds node) : ∃ fields, root.entries? node = some fields ∧
      ∀ a, Member.readRecord? root (members root) node a =
        some (replaced a (valueIn? root kinds fields)) := by
  obtain ⟨fields, listed, distinct, typed⟩ := isSection
  refine ⟨fields, listed, fun a => ?_⟩
  rw [Member.readRecord?_eq (reads.commute root) (names_of_fits (reads.fits root) ▸ reads.apart)
    listed distinct, ← reads.foldl_put]
  refine Member.giveAll_eq_foldl (fun m member node found a => ?_) a
  obtain ⟨⟨name, kind⟩, listed', called, settable⟩ := exists_of_forall₂ (reads.fits root) member
  rw [settable]
  exact typed _ (mem_of_lookup found) kind (called ▸ lookup_of_mem reads.apart listed')

/-! ### Values of a section -/

theorem valueIn?_eq {kind : SettingKind} {name : Text} (known : kinds.lookup name = some kind) :
    valueIn? root kinds fields name = (fields.lookup name).bind (kind.read? root) := by
  simp only [valueIn?, known, Option.bind_eq_bind, Option.bind_some]

theorem valueIn?_eq_map {β : Type} {kind : SettingKind} {name : Text} {read? : Node → Option β}
    {wrap : β → SettingValue} (known : kinds.lookup name = some kind)
    (reads : ∀ node, kind.read? root node = (read? node).map wrap) :
    valueIn? root kinds fields name = ((fields.lookup name).bind read?).map wrap := by
  rw [valueIn?_eq known, Option.map_bind]
  exact congrArg _ (funext reads)

theorem naturalOr_valueIn? (name : Text) (known : kinds.lookup name = some (.natural bound))
    (n : Nat) : SettingValue.naturalOr n (valueIn? root kinds fields name) =
      ((fields.lookup name).bind (root.natural? bound)).getD n := by
  rw [valueIn?_eq_map known fun _ => rfl]
  cases (fields.lookup name).bind (root.natural? bound) <;> rfl

theorem numberOr_valueIn? (name : Text) (known : kinds.lookup name = some .number) (x : Floating) :
    SettingValue.numberOr x (valueIn? root kinds fields name) =
      ((fields.lookup name).bind root.double?).getD x := by
  rw [valueIn?_eq_map known fun _ => rfl]
  cases (fields.lookup name).bind root.double? <;> rfl

theorem singleOr_valueIn? (name : Text) (known : kinds.lookup name = some .number) (x : Floating) :
    SettingValue.singleOr x (valueIn? root kinds fields name) =
      ((fields.lookup name).bind
        (Option.map FloatFormat.single.convert ∘ root.double?)).getD x := by
  rw [valueIn?_eq_map known fun _ => rfl, ← Option.map_bind]
  cases (fields.lookup name).bind root.double? <;> rfl

theorem textsOr_valueIn? (name : Text) (known : kinds.lookup name = some .texts)
    (items : List Text) : SettingValue.textsOr items (valueIn? root kinds fields name) =
      ((fields.lookup name).bind root.texts?).getD items := by
  rw [valueIn?_eq_map known fun _ => rfl]
  cases (fields.lookup name).bind root.texts? <;> rfl

end Sections

theorem reads_checkout :
    Reads CheckoutSettings.members CheckoutSettings.kinds CheckoutSettings.replaced where
  commute root := by
    simp only [CheckoutSettings.members, List.pairwise_cons, List.forall_mem_cons, List.not_mem_nil,
      false_implies, implies_true, List.Pairwise.nil, and_true]
    and_intros <;> exact Member.commute_of fun _ _ _ => rfl
  fits root :=
    .cons fits_natural <| .cons fits_natural <| .cons fits_natural <| .cons fits_natural <|
      .cons fits_texts <| .cons fits_texts .nil
  apart := by decide
  foldl_put root fields s := by
    unfold CheckoutSettings.replaced
    rw [naturalOr_valueIn? "max_files" rfl, naturalOr_valueIn? "max_file_bytes" rfl,
      naturalOr_valueIn? "clone_timeout_secs" rfl, naturalOr_valueIn? "revision_timeout_secs" rfl,
      textsOr_valueIn? "extensions" rfl, textsOr_valueIn? "ignore" rfl]
    simp only [CheckoutSettings.members, List.foldl_cons, List.foldl_nil]
    rw [Member.put_of "max_files" CheckoutSettings.maxFiles,
      Member.put_of "max_file_bytes" CheckoutSettings.maxFileBytes,
      Member.put_of "clone_timeout_secs" CheckoutSettings.cloneTimeoutSecs,
      Member.put_of "revision_timeout_secs" CheckoutSettings.revisionTimeoutSecs,
      Member.put_of "extensions" CheckoutSettings.extensions,
      Member.put_of "ignore" CheckoutSettings.ignore]
    all_goals exact fun _ => rfl
  kept _ := rfl

theorem reads_excerpt :
    Reads ExcerptSettings.members ExcerptSettings.kinds ExcerptSettings.replaced where
  commute root := by
    simp only [ExcerptSettings.members, List.pairwise_cons, List.forall_mem_cons, List.not_mem_nil,
      false_implies, implies_true, List.Pairwise.nil, and_true]
    and_intros <;> exact Member.commute_of fun _ _ _ => rfl
  fits root := .cons fits_natural <| .cons fits_natural <| .cons fits_natural .nil
  apart := by decide
  foldl_put root fields s := by
    unfold ExcerptSettings.replaced
    rw [naturalOr_valueIn? "signature_threshold" rfl, naturalOr_valueIn? "signature_cap" rfl,
      naturalOr_valueIn? "excerpt_lines" rfl]
    simp only [ExcerptSettings.members, List.foldl_cons, List.foldl_nil]
    rw [Member.put_of "signature_threshold" ExcerptSettings.signatureThreshold,
      Member.put_of "signature_cap" ExcerptSettings.signatureCap,
      Member.put_of "excerpt_lines" ExcerptSettings.excerptLines]
    all_goals exact fun _ => rfl
  kept _ := rfl

theorem reads_grouping :
    Reads GroupingSettings.members GroupingSettings.kinds GroupingSettings.replaced where
  commute root := by
    simp only [GroupingSettings.members, List.pairwise_cons, List.forall_mem_cons, List.not_mem_nil,
      false_implies, implies_true, List.Pairwise.nil, and_true]
    and_intros <;> exact Member.commute_of fun _ _ _ => rfl
  fits root := .cons fits_natural <| .cons fits_natural <| .cons fits_natural <|
    .cons fits_natural .nil
  apart := by decide
  foldl_put root fields s := by
    unfold GroupingSettings.replaced
    rw [naturalOr_valueIn? "root_recluster_threshold" rfl,
      naturalOr_valueIn? "files_per_module" rfl, naturalOr_valueIn? "max_module_chars" rfl,
      naturalOr_valueIn? "overview_path_sample" rfl]
    simp only [GroupingSettings.members, List.foldl_cons, List.foldl_nil]
    rw [Member.put_of "root_recluster_threshold" GroupingSettings.rootThreshold,
      Member.put_of "files_per_module" GroupingSettings.filesPerModule,
      Member.put_of "max_module_chars" GroupingSettings.maxModuleChars,
      Member.put_of "overview_path_sample" GroupingSettings.pathSample]
    all_goals exact fun _ => rfl
  kept _ := rfl

theorem reads_schedule :
    Reads ScheduleSettings.members ScheduleSettings.kinds ScheduleSettings.replaced where
  commute root := by
    simp only [ScheduleSettings.members, List.pairwise_cons, List.forall_mem_cons, List.not_mem_nil,
      false_implies, implies_true, List.Pairwise.nil, and_true]
    and_intros <;> exact Member.commute_of fun _ _ _ => rfl
  fits root :=
    .cons fits_natural <| .cons fits_number <| .cons fits_natural <| .cons fits_natural <|
      .cons fits_number .nil
  apart := by decide
  foldl_put root fields s := by
    unfold ScheduleSettings.replaced
    rw [naturalOr_valueIn? "max_attempts" rfl, numberOr_valueIn? "rate_limit_backoff_secs" rfl,
      naturalOr_valueIn? "default_parallelism" rfl, naturalOr_valueIn? "request_timeout_secs" rfl,
      singleOr_valueIn? "temperature" rfl]
    simp only [ScheduleSettings.members, List.foldl_cons, List.foldl_nil]
    -- The temperature is rounded before it is stored, so that storing the one at hand changes
    -- nothing.
    rw [Member.of_map "temperature" root.double? FloatFormat.single.convert
        fun x (s : ScheduleSettings) => { s with temperature := x },
      Member.put_of "max_attempts" ScheduleSettings.maxAttempts,
      Member.put_of "rate_limit_backoff_secs" ScheduleSettings.backoffSecs,
      Member.put_of "default_parallelism" ScheduleSettings.defaultParallelism,
      Member.put_of "request_timeout_secs" ScheduleSettings.requestTimeoutSecs,
      Member.put_of "temperature" ScheduleSettings.temperature]
    all_goals exact fun _ => rfl
  kept _ := rfl

theorem reads_retention :
    Reads RetentionSettings.members RetentionSettings.kinds RetentionSettings.replaced where
  commute root := by
    simp only [RetentionSettings.members, List.pairwise_cons, List.forall_mem_cons,
      List.not_mem_nil, false_implies, implies_true, List.Pairwise.nil, and_true]
    exact Member.commute_of fun _ _ _ => rfl
  fits root := .cons fits_natural <| .cons fits_natural .nil
  apart := by decide
  foldl_put root fields s := by
    unfold RetentionSettings.replaced
    rw [naturalOr_valueIn? "ttl_secs" rfl, naturalOr_valueIn? "capacity" rfl]
    simp only [RetentionSettings.members, List.foldl_cons, List.foldl_nil]
    rw [Member.put_of "ttl_secs" RetentionSettings.lifetimeSecs,
      Member.put_of "capacity" RetentionSettings.capacity]
    all_goals exact fun _ => rfl
  kept _ := rfl

/-! ### The document -/

/-- The member that reads a section into its part of the settings. -/
def part {α : Type} (root : Node) (heading : String) (members : Node → List (Member α))
    (get : Settings → α) (store : α → Settings → Settings) : Member Settings where
  name := heading
  set? node s := (Member.readRecord? root (members root) node (get s)).bind fun a =>
    some (store a s)

theorem members_eq (root : Node) : members root = [
    part root "materialize" CheckoutSettings.members checkout fun checkout s => { s with checkout },
    part root "extract" ExcerptSettings.members excerpt fun excerpt s => { s with excerpt },
    part root "aggregate" GroupingSettings.members grouping fun grouping s => { s with grouping },
    part root "orchestrate" ScheduleSettings.members schedule fun schedule s => { s with schedule },
    part root "cache" RetentionSettings.members retention fun retention s =>
      { s with retention }] :=
  rfl

section Parts

variable {α β : Type} {root node : Node} {members : Node → List (Member α)}
  {heading heading' : String} {members' : Node → List (Member β)}
  {kinds : List (Text × SettingKind)} {named : List (Text × Node)}
  {replaced : α → (Text → Option SettingValue) → α} {get : Settings → α} {get' : Settings → β}
  {store : α → Settings → Settings} {store' : β → Settings → Settings} {s : Settings}

theorem commute_part (apart : ∀ b s, get (store' b s) = get s)
    (apart' : ∀ a s, get' (store a s) = get' s)
    (exchange : ∀ a b s, store' b (store a s) = store a (store' b s)) :
    Commute (part root heading members get store) (part root heading' members' get' store') := by
  intro node node' s
  simp only [part, Option.bind_assoc, Option.bind_some, apart, apart']
  cases Member.readRecord? root (members root) node (get s) with
  | none => cases Member.readRecord? root (members' root) node' (get' s) <;> rfl
  | some a =>
    cases Member.readRecord? root (members' root) node' (get' s) with
    | none => rfl
    | some b => exact congrArg some (exchange a b s)

theorem set?_part (reads : Reads members kinds replaced) (isSection : IsSection root kinds node) :
    ((part root heading members get store).set? node s).isSome := by
  obtain ⟨fields, -, read⟩ := reads.readRecord? isSection
  simp only [part, read, Option.bind_some, Option.isSome_some]

theorem given?_eq {fields : List (Text × Node)}
    (known : sections.lookup heading.toList = some kinds) (listed : root.entries? root = some named)
    (found : named.lookup heading.toList = some node) (listed' : root.entries? node = some fields) :
    given? root heading = valueIn? root kinds fields := by
  funext name
  simp only [given?, known, listed, found, listed', Option.bind_eq_bind, Option.bind_some]

theorem given?_of_absent (listed : root.entries? root = some named)
    (absent : named.lookup heading.toList = none) : given? root heading = fun _ => none := by
  funext name
  simp only [given?, listed, absent, Option.bind_eq_bind, Option.bind_some, Option.bind_none,
    Option.bind_fun_none]

/-- A section that is given replaces what it gives, and no section replaces nothing. -/
theorem put_part (reads : Reads members kinds replaced)
    (known : sections.lookup heading.toList = some kinds) (kept : ∀ s, store (get s) s = s)
    (listed : root.entries? root = some named)
    (typed : ∀ node, named.lookup heading.toList = some node → IsSection root kinds node) :
    put named s (part root heading members get store) =
      store (replaced (get s) (given? root heading)) s := by
  unfold put Member.give
  cases found : named.lookup heading.toList with
  | none =>
    rw [given?_of_absent listed found, reads.kept, kept]
    simp only [part, found, Option.getD_some]
  | some node =>
    obtain ⟨fields, listed', read⟩ := reads.readRecord? (typed node found)
    rw [given?_eq known listed found listed']
    simp only [part, found, read, Option.bind_some, Option.getD_some]

end Parts

/-- The settings that a proper document describes: the defaults, and what is given in their
places. -/
theorem ofNode?_of_isProper {root : Node} (proper : IsProper root) :
    ofNode? root = some (ofGiven (given? root)) := by
  obtain ⟨named, listed, distinct, typed⟩ := proper
  have isSection : ∀ heading kinds, sections.lookup heading = some kinds →
      ∀ node, named.lookup heading = some node → IsSection root kinds node :=
    fun _ kinds known _ found => typed _ (mem_of_lookup found) kinds known
  have checkout := isSection "materialize" _ rfl
  have excerpt := isSection "extract" _ rfl
  have grouping := isSection "aggregate" _ rfl
  have schedule := isSection "orchestrate" _ rfl
  have retention := isSection "cache" _ rfl
  have commute : (members root).Pairwise Commute := by
    rw [members_eq]
    simp only [List.pairwise_cons, List.forall_mem_cons, List.not_mem_nil, false_implies,
      implies_true, List.Pairwise.nil, and_true]
    and_intros <;> exact commute_part (fun _ _ => rfl) (fun _ _ => rfl) fun _ _ _ => rfl
  have apart : ((members root).map Member.name).Nodup :=
    (by decide : (sections.map Prod.fst).Nodup)
  unfold ofNode?
  rw [Member.readRecord?_eq commute apart listed distinct, Member.giveAll_eq_foldl, members_eq]
  · simp only [List.foldl_cons, List.foldl_nil]
    rw [put_part reads_checkout rfl (fun _ => rfl) listed checkout,
      put_part reads_excerpt rfl (fun _ => rfl) listed excerpt,
      put_part reads_grouping rfl (fun _ => rfl) listed grouping,
      put_part reads_schedule rfl (fun _ => rfl) listed schedule,
      put_part reads_retention rfl (fun _ => rfl) listed retention]
    rfl
  · rw [members_eq]
    simp only [List.forall_mem_cons, List.not_mem_nil, false_implies, implies_true, and_true]
    exact ⟨fun node found _ => set?_part reads_checkout (checkout node found),
      fun node found _ => set?_part reads_excerpt (excerpt node found),
      fun node found _ => set?_part reads_grouping (grouping node found),
      fun node found _ => set?_part reads_schedule (schedule node found),
      fun node found _ => set?_part reads_retention (retention node found)⟩

end Settings
end CodeWiki
