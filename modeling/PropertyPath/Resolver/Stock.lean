import PropertyPath.Resolver.Chain
import PropertyPath.Resolver.Collections
import PropertyPath.Resolver.Roots

/-!
# Stock resolvers

The resolvers the library provides, as data. Their behaviour is that of
resolvers on the store, so none of them has state or effects of its own.
-/

namespace PropertyPath

/-- A resolver of the library. -/
inductive Stock where
  | locals (scope : Ref)
  | maps (readOnly : Bool)
  | sequences (kind : SequenceKind) (readOnly : Bool)
  | records (readOnly : Bool)
  | classes (loader : Classes.Loader)
  | colors
  | implicit (root : String) (value : Value)
  deriving DecidableEq

namespace Stock

/-- The behaviour of a stock resolver. -/
def behaviour : Stock → StoreResolver
  | locals scope => Locals.resolver scope
  | maps readOnly => Maps.resolver readOnly
  | sequences kind readOnly => Sequences.resolver kind readOnly
  | records readOnly => Records.resolver readOnly
  | classes loader => Classes.resolver loader
  | colors => Colors.resolver
  | implicit root value => Implicit.resolver root value

/-- A stock resolver in any world. -/
def resolver {ρ : Type} (r : Stock) : Resolver ρ := r.behaviour.toResolver

end Stock

end PropertyPath
