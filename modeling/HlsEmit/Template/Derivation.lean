import HlsEmit.Error
import HlsEmit.Template.Params

/-! # Families and derivations

A family is a vocabulary: the kinds it covers and the attributes and types that
a layer of each kind is expected to carry. A derivation rewrites parameters and
declares the names it may add or override.
-/

namespace HlsEmit

/-- The vocabulary of a family of layer kinds. -/
structure LayerFamily where
  /-- The name of the family, which is part of every template name. -/
  name : String
  kinds : List LayerKind
  /-- The attributes a layer of the kind is expected to carry. -/
  attributes : LayerKind → List String
  /-- The types a layer of the kind is expected to carry. -/
  types : LayerKind → List String

/-- The placeholder names that the attributes and types of the kind stand for. -/
def LayerFamily.vocabulary (family : LayerFamily) (kind : LayerKind) : List String :=
  family.attributes kind ++
    (family.types kind).flatMap fun type => [type ++ ".name", type ++ ".precision"]

/-- What a derivation is told about the template it works for. -/
structure DeriveContext where
  backend : String
  template : String
  deriving DecidableEq, Repr

/-- A rewrite of parameters. -/
structure Derivation where
  /-- The names it may add or override. -/
  provides : List String
  /-- The rewrite, which may refuse the layer. -/
  apply : DeriveContext → Layer → Params → Except CodegenError Params

/-- A derivation that writes bindings which depend on the layer alone, and not on
    the parameters so far. -/
def Derivation.writing (provides : List String)
    (bindings : DeriveContext → Layer → Except CodegenError (List (String × String))) :
    Derivation where
  provides := provides
  apply context layer params := (bindings context layer).map params.insertAll

end HlsEmit
