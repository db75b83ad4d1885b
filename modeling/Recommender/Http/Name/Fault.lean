/-!
# Why a text is no name
-/

namespace Recommender.Http

/-- Why a text is no name of a host. -/
inductive NameFault where
  /-- It is too long, or a part of it is, or has not the form of one. -/
  | malformed
  /-- A character cannot stand in a name. -/
  | alien
  /-- A character lacks the company that it needs. -/
  | alone
  /-- Characters are written in different directions. -/
  | mixed
  deriving DecidableEq, Repr, Inhabited

end Recommender.Http
