/-!
# Mirrored fields

Records with optional fields are converted to records in which a list with at
most one element stands for such a field.  A conversion keeps a field when its
mirror holds what the field holds.  An optional field that is kept shows
whether it is present.
-/

namespace SslRosBridge.Library

/-- A field of a source record with its mirror in the target record. -/
inductive MirroredField (Source Target : Type) : Type 1 where
  | required {Value Image : Type} (name : String) (value : Source → Value)
      (convert : Value → Image) (mirror : Target → Image)
  | optional {Value Image : Type} (name : String) (value : Source → Option Value)
      (put : Source → Option Value → Source) (convert : Value → Image)
      (mirror : Target → List Image)

/-- An optional field of a source record.  The hidden values are those that a
conversion does not tell from an absent one. -/
structure OptionalField (Source : Type) : Type 1 where
  name : String
  Value : Type
  put : Source → Option Value → Source
  hidden : Value → Prop

variable {Source Target : Type}

/-- Two records that differ in the presence of the field are told apart, unless
the value is hidden. -/
def OptionalField.Shown (field : OptionalField Source) (convert : Source → Target) : Prop :=
  ∀ source value,
    convert (field.put source none) ≠ convert (field.put source (some value)) ↔
      ¬ field.hidden value

/-- A reading of the target shows the presence of a value that is not hidden. -/
theorem OptionalField.Shown.of_reading {field : OptionalField Source} {convert : Source → Target}
    {Image : Type} (reading : Target → Image)
    (shown : ∀ source value, ¬ field.hidden value →
      reading (convert (field.put source none)) ≠
        reading (convert (field.put source (some value))))
    (same : ∀ source value, field.hidden value →
      convert (field.put source none) = convert (field.put source (some value))) :
    field.Shown convert := by
  intro source value
  constructor
  · intro differs hidden
    exact differs (same source value hidden)
  · intro visible equal
    exact shown source value visible (congrArg reading equal)

/-- A field whose default is converted for an absent value hides exactly the
values with the same image as the default. -/
theorem OptionalField.Shown.of_image {field : OptionalField Source} {convert : Source → Target}
    {Image : Type} (image : field.Value → Image) (default : Image)
    (build : Source → Image → Target) (reading : Target → Image)
    (absent : ∀ source, convert (field.put source none) = build source default)
    (present : ∀ source value, convert (field.put source (some value)) = build source (image value))
    (read : ∀ source value, reading (build source value) = value)
    (hidden : ∀ value, image value = default ↔ field.hidden value) :
    field.Shown convert := by
  refine .of_reading reading ?_ ?_
  · intro source value visible equal
    rw [absent, present, read, read] at equal
    exact visible ((hidden value).mp equal.symm)
  · intro source value covered
    rw [absent, present, (hidden value).mpr covered]

namespace MirroredField

@[simp] def name : MirroredField Source Target → String
  | .required name .. => name
  | .optional name .. => name

/-- The mirror holds the converted value, and nothing for an absent one. -/
@[simp] def Kept (source : Source) (target : Target) : MirroredField Source Target → Prop
  | .required _ value convert mirror => mirror target = convert (value source)
  | .optional _ value _ convert mirror => mirror target = ((value source).map convert).toList

@[simp] def Absent (source : Source) : MirroredField Source Target → Prop
  | .required .. => False
  | .optional _ value .. => value source = none

/-- What is put into an optional field is its value. -/
@[simp] def Settable : MirroredField Source Target → Prop
  | .required .. => True
  | .optional _ value put .. => ∀ source content, value (put source content) = content

/-- The optional fields among mirrored ones, of which the named are forgotten. -/
@[simp] def optional? (forgotten : List String) :
    MirroredField Source Target → Option (OptionalField Source)
  | .required .. => none
  | .optional name _ put .. => some ⟨name, _, put, fun _ => name ∈ forgotten⟩

/-- Two target records agree in the mirror of the field. -/
@[simp] def SameMirror (first second : Target) : MirroredField Source Target → Prop
  | .required _ _ _ mirror => mirror first = mirror second
  | .optional _ _ _ _ mirror => mirror first = mirror second

/-- A conversion keeps the listed fields, and drops those that are forgotten. -/
structure Faithful (fields : List (MirroredField Source Target)) (forgotten : List String)
    (convert : Source → Target) : Prop where
  settable : ∀ field ∈ fields, field.Settable
  kept : ∀ field ∈ fields, ∀ source,
    field.Kept source (convert source) ↔ (field.name ∈ forgotten → field.Absent source)
  dropped : ∀ field ∈ fields, ∀ optional, field.optional? forgotten = some optional →
    ∀ source value, optional.hidden value →
      convert (optional.put source none) = convert (optional.put source (some value))

/-- The listed fields make up the whole target record. -/
def Complete (fields : List (MirroredField Source Target)) : Prop :=
  ∀ first second, (∀ field ∈ fields, field.SameMirror first second) → first = second

variable {fields : List (MirroredField Source Target)} {forgotten : List String}
  {convert : Source → Target}

theorem Faithful.kept_all (faithful : Faithful fields forgotten convert) (source : Source) :
    (∀ field ∈ fields, field.Kept source (convert source)) ↔
      ∀ field ∈ fields, field.name ∈ forgotten → field.Absent source := by
  constructor
  · intro kept field listed
    exact (faithful.kept field listed source).mp (kept field listed)
  · intro absent field listed
    exact (faithful.kept field listed source).mpr (absent field listed)

/-- A conversion that keeps every listed field. -/
theorem Faithful.of_kept (settable : ∀ field ∈ fields, field.Settable)
    (kept : ∀ field ∈ fields, ∀ source, field.Kept source (convert source)) :
    Faithful fields [] convert where
  settable := settable
  kept := by
    intro field mem source
    exact iff_of_true (kept field mem source) fun named => absurd named List.not_mem_nil
  dropped := by
    intro field mem optional selected source value hidden
    cases field with
    | required => cases selected
    | optional =>
        cases selected
        exact absurd hidden List.not_mem_nil

/-- An optional field that is kept shows its presence. -/
theorem Faithful.shown (faithful : Faithful fields forgotten convert)
    {optional : OptionalField Source}
    (listed : optional ∈ fields.filterMap (·.optional? forgotten)) :
    optional.Shown convert := by
  obtain ⟨field, mem, selected⟩ := List.mem_filterMap.mp listed
  have settable := faithful.settable field mem
  have kept := faithful.kept field mem
  have dropped := faithful.dropped field mem optional selected
  cases field with
  | required => cases selected
  | optional name value put image mirror =>
      cases selected
      refine .of_reading mirror ?_ dropped
      intro source content visible equal
      have read : ∀ content, mirror (convert (put source content)) =
          (content.map image).toList := by
        intro content
        have mirrored : mirror (convert (put source content)) =
            ((value (put source content)).map image).toList :=
          (kept _).mpr fun named => absurd named visible
        rw [mirrored, settable]
      rw [read, read] at equal
      cases equal

end MirroredField

end SslRosBridge.Library
