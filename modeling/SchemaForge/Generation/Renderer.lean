import SchemaForge.Template.Engine
import SchemaForge.Text.Utf8

/-! What produces the output of a run, as buffers of bytes that are written one after the other. -/

namespace SchemaForge

/-- What a template and data lead to: how it ended, and the buffers that came out before. -/
abbrev Production := Except GenerationError Unit × List (List UInt8)

inductive Renderer where
  | templates (engine : Engine)
  /-- Anything else that writes output; what it writes may depend on what it was given before, the
  latest first. -/
  | custom (seen : List (TemplateRef × Json))
      (produce : List (TemplateRef × Json) → TemplateRef → Json → Production)

namespace Renderer

/-- Cuts bytes into buffers of `size` bytes, the last may be shorter; sizes start at one. -/
def chunks (size : Nat) (bytes : List UInt8) : List (List UInt8) :=
  if bytes.isEmpty then []
  else bytes.take (size - 1 + 1) :: chunks size (bytes.drop (size - 1 + 1))
termination_by bytes.length
decreasing_by
  rename_i h
  have : bytes ≠ [] := by simpa using h
  have := List.length_pos_iff.mpr this
  simp only [List.length_drop]
  omega

def ofText (text : String) (size : Nat) : Renderer :=
  .custom [] fun _ _ _ => (.ok (), chunks size (Utf8.encodeString text))

/-- Buffers that came out, how it ended, and the state for the next template. -/
structure Outcome where
  result : Except GenerationError Unit
  buffers : List (List UInt8)
  names : UniqueNames
  renderer : Renderer

def render (r : Renderer) (fs : FileSystem) (names : UniqueNames) (t : TemplateRef) (data : Json) :
    Outcome :=
  match r with
  | .templates engine =>
    let done := engine.render fs names t data
    { result := done.result
      buffers := [Utf8.encode done.text]
      names := done.names
      renderer := .templates done.engine }
  | .custom seen produce =>
    let (result, buffers) := produce seen t data
    { result, buffers, names, renderer := .custom ((t, data) :: seen) produce }

end Renderer

end SchemaForge
