import OperatorKit.Spec.Merge

/-!
# Layers

A document built up step by step. Each step puts a text on top of the document so far or
beneath it, either as a document of its own or by writing the document so far out and merging the
two texts.
-/

namespace OperatorKit.Spec

open OperatorKit.Text

/-- Why a step fails. -/
inductive LayerFault where
  | text (fault : DecodeFault)
  | side (fault : InputFault)

/-- One step. -/
inductive Layer where
  /-- Starts again from a text. -/
  | load (text : Bytes)
  /-- Takes the document so far as the default of a text. -/
  | onTop (text : Bytes)
  /-- Takes a text as the default of the document so far. -/
  | beneath (text : Bytes)
  | rawOnTop (text : Bytes)
  | rawBeneath (text : Bytes)
  | strictOnTop (text : Bytes)

/-- A text as a document of its own. -/
def Layer.document (text : Bytes) : Except LayerFault Document :=
  (Document.decode text).mapError .text

/-- The document after a step. -/
def Layer.apply (state : Document) : Layer → Except LayerFault Document
  | load text => Layer.document text
  | onTop text => (Layer.document text).map fun changed => state.merge changed
  | beneath text => (Layer.document text).map fun default => default.merge state
  | rawOnTop text => .ok (mergeLenient state.compactBytes text).document
  | rawBeneath text => .ok (mergeLenient text state.compactBytes).document
  | strictOnTop text => (mergeStrict state.compactBytes text).mapError .side

/-- What each of a row of steps gives. A step that fails leaves the document as it was. -/
def Layer.outcomes (state : Document) : List Layer → List (Except LayerFault Document)
  | [] => []
  | layer :: layers =>
    let outcome := layer.apply state
    let next := match outcome with
      | .ok document => document
      | .error _ => state
    outcome :: outcomes next layers

end OperatorKit.Spec
