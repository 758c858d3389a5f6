/-
How a connection string is written.

    edgedb:[//[user[:password]@]hosts][path][?query][#fragment]

A **layout** holds the pieces of a connection string as they stand there, without their delimiters,
and tells an absent piece from an empty one: `edgedb:` and `edgedb://?#` are two layouts that say
the same. Each piece comes with a proof that it is free of the delimiters that would end it too
early. Nothing else is asked of a piece; whether it can be decoded is a question of its own.
-/
import SessionPlan.Dsn

set_option autoImplicit false

namespace SessionPlan.Dsn

/-- A piece with its delimiter in front; nothing if the piece is absent. -/
def marked (sep : Char) : Option (List Char) → List Char
  | none => []
  | some piece => sep :: piece

/-! ## The authority -/

/-- User information: the first colon ends the user, an `@` may stand anywhere. -/
structure UserInfo where
  user : List Char
  password : Option (List Char)
  user_free : ∀ c ∈ [':', '/', '?', '#'], c ∉ user
  password_free : ∀ c ∈ ['/', '?', '#'], c ∉ password.getD []

/-- An authority: the last `@` ends the user information. -/
structure Authority where
  userInfo : Option UserInfo
  hostList : List Char
  hostList_free : ∀ c ∈ ['@', '/', '?', '#'], c ∉ hostList

/-- User information as it is written. -/
def UserInfo.written (info : UserInfo) : List Char := info.user ++ marked ':' info.password

/-- An authority as it is written. -/
def Authority.written (authority : Authority) : List Char :=
  match authority.userInfo with
  | none => authority.hostList
  | some info => info.written ++ '@' :: authority.hostList

/-! ## Layouts -/

/-- The pieces of a connection string. Behind an authority a path starts with a slash; without one
it does not start with two. -/
structure Layout where
  authority : Option Authority
  path : List Char
  query : Option (List Char)
  fragment : Option (List Char)
  path_start : if authority.isSome then path = [] ∨ path.head? = some '/'
    else ¬ ['/', '/'] <+: path
  path_free : ∀ c ∈ ['?', '#'], c ∉ path
  query_free : '#' ∉ query.getD []

namespace Layout

/-- Authority and path as they are written. -/
def hierarchy (layout : Layout) : List Char :=
  match layout.authority with
  | none => layout.path
  | some authority => '/' :: '/' :: authority.written ++ layout.path

/-- What stands behind the scheme and its colon. -/
def written (layout : Layout) : List Char :=
  (layout.hierarchy ++ marked '?' layout.query) ++ marked '#' layout.fragment

/-- The connection string of a layout. -/
def text (layout : Layout) : String :=
  String.ofList (dsnScheme.toList ++ ':' :: layout.written)

/-! ## What the pieces say

An absent piece says as little as an empty one, so here both are the empty text. -/

/-- The user information, where an authority has it. -/
def userInfo? (layout : Layout) : Option UserInfo := layout.authority.bind (·.userInfo)

/-- The user, still encoded. -/
def user (layout : Layout) : List Char := (layout.userInfo?.map (·.user)).getD []

/-- The password, still encoded. -/
def password (layout : Layout) : List Char := (layout.userInfo?.bind (·.password)).getD []

/-- The host list. -/
def hostList (layout : Layout) : List Char := (layout.authority.map (·.hostList)).getD []

/-- The database, still encoded: the path, less one slash if it starts with one. -/
def database (layout : Layout) : List Char :=
  if layout.path.head? = some '/' then layout.path.tail else layout.path

/-- The fields of the query: the pieces between its ampersands, and none in an empty query. -/
def fields (layout : Layout) : List (List Char) :=
  if layout.query.getD [] = [] then [] else (layout.query.getD []).splitOn '&'

end Layout

/-! ## Changes -/

/-- A piece of a query, which may stand between two ampersands. -/
structure QueryPiece where
  written : List Char
  free : ∀ c ∈ ['&', '#'], c ∉ written

namespace QueryPiece

/-- The text of a piece, form-decoded. -/
def text (piece : QueryPiece) : List Char := Text.Percent.decodeForm piece.written

/-- The field of a key and a value. -/
def field (key value : QueryPiece) : QueryPiece where
  written := key.written ++ '=' :: value.written
  free := fun c hc => by
    have heq : c ≠ '=' := by
      rintro rfl
      exact absurd hc (by decide)
    rw [List.mem_append, List.mem_cons, not_or, not_or]
    exact ⟨key.free c hc, heq, value.free c hc⟩

end QueryPiece

namespace Layout

/-- A layout with one more field in front of its query. -/
def addField (layout : Layout) (field : QueryPiece) : Layout :=
  { layout with
    query := some (if layout.query.getD [] = [] then field.written
      else field.written ++ '&' :: layout.query.getD [])
    query_free := by
      have hfield : '#' ∉ field.written := field.free '#' (by decide)
      rw [Option.getD_some]
      split
      · exact hfield
      · simp [hfield, layout.query_free] }

/-- A layout with another host list in its authority. -/
def withHostList (layout : Layout) (hosts : List Char)
    (free : ∀ c ∈ ['@', '/', '?', '#'], c ∉ hosts) : Layout :=
  { layout with
    authority := layout.authority.map fun authority =>
      { authority with hostList := hosts, hostList_free := free }
    path_start := by
      rw [Option.isSome_map]
      exact layout.path_start }

end Layout

end SessionPlan.Dsn
