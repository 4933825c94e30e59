import KisAuth.Data.Records

/-
  The identity and client tables and the statements run on
  them, one atomic operation each.

  A text parameter with a NUL character is refused, and a
  uuid parameter is read the way the uuid type reads text:
  any letter case, optional braces and hyphens.

  Key definitions include:
    * `uuidIn`
    * `AuthIdentityRow`, `Tables`
    * `Tables.selectIdentity`, `Tables.selectIdentityById`
    * `Tables.checkInsert`, `Tables.addRow`
    * `Tables.modifyRow`, `Tables.selectClient`
-/

------------------------------------------------------------
-- Parameters
------------------------------------------------------------

namespace KisAuth

/- The errors the service can tell apart by code. -/
inductive SqlError where
  | uniqueViolation
  | invalidText
  deriving DecidableEq

/- Text the database can store. -/
def validText (text : String) : Bool :=
  text.toList.all (fun c => c.toNat != 0)

/- A hexadecimal digit in lower case. -/
def hexDigit (c : Char) : Option Char :=
  if c.isDigit then some c
  else if 'a' ≤ c ∧ c ≤ 'f' then some c
  else if 'A' ≤ c ∧ c ≤ 'F' then some c.toLower
  else none

/- Skip one hyphen. -/
def skipHyphen : List Char → List Char
| '-' :: rest => rest
| rest => rest

/-
  Read `groups` groups of four hexadecimal digits with an
  optional hyphen between two groups, and the rest.
-/
def readUuidGroups :
    Nat → List Char → Option (List Char × List Char)
| 0, rest => some ([], rest)
| groups + 1, a :: b :: c :: d :: rest =>
    match hexDigit a, hexDigit b, hexDigit c, hexDigit d with
    | some a, some b, some c, some d =>
        match readUuidGroups groups
            (if groups = 0 then rest
              else skipHyphen rest) with
        | some (digits, rest) =>
            some (a :: b :: c :: d :: digits, rest)
        | none => none
    | _, _, _, _ => none
| _ + 1, _ => none

/- The canonical text of 32 hexadecimal digits. -/
def formatUuid (digits : List Char) : String :=
  String.ofList
    (digits.take 8 ++
      '-' :: (digits.drop 8).take 4 ++
      '-' :: (digits.drop 12).take 4 ++
      '-' :: (digits.drop 16).take 4 ++
      '-' :: digits.drop 20)

/- The canonical text of a uuid given as text. -/
def uuidIn (text : String) : Option String :=
  match text.toList with
  | '{' :: rest =>
      match readUuidGroups 8 rest with
      | some (digits, ['}']) => some (formatUuid digits)
      | _ => none
  | rest =>
      match readUuidGroups 8 rest with
      | some (digits, []) => some (formatUuid digits)
      | _ => none

example :
    uuidIn "{11111111-1111-1111-1111-1111111111AF}" =
      some "11111111-1111-1111-1111-1111111111af" := by
  decide

end KisAuth

------------------------------------------------------------
-- Tables And Statements
------------------------------------------------------------

namespace KisAuth

/- A row of `auth_identity`. -/
structure AuthIdentityRow extends AuthIdentity where
  lastAuthenticatedAt : Option Nat
  deriving DecidableEq

/- The two tables the service reads. -/
structure Tables where
  identities : List AuthIdentityRow
  clients : String → Option RegisteredClient

namespace Tables

def selectClient
    (tables : Tables)
    (clientId : String) :
    Except SqlError (Option RegisteredClient) :=
  if validText clientId then
    .ok (tables.clients clientId)
  else
    .error .invalidText

def selectIdentity
    (tables : Tables)
    (provider providerSubject : String) :
    Except SqlError (Option AuthIdentity) :=
  if validText provider && validText providerSubject then
    .ok ((tables.identities.find? (fun row =>
      row.provider == provider &&
        row.providerSubject == providerSubject)).map
      AuthIdentityRow.toAuthIdentity)
  else
    .error .invalidText

/- The row with a given uuid. -/
def findRow
    (tables : Tables)
    (id : String) : Option AuthIdentityRow :=
  tables.identities.find? (fun row => row.id == id)

def selectIdentityById
    (tables : Tables)
    (id : String) :
    Except SqlError (Option AuthIdentity) :=
  match uuidIn id with
  | none => .error .invalidText
  | some id =>
      .ok ((tables.findRow id).map
        AuthIdentityRow.toAuthIdentity)

/-
  The two unique constraints: one row for each provider and
  subject, and one row for each user.
-/
def conflicts
    (tables : Tables)
    (row : NewIdentity) : Bool :=
  tables.identities.any (fun other =>
    (other.provider == row.provider &&
        other.providerSubject == row.providerSubject) ||
      other.kisUserId == row.kisUserId)

/-
  What an INSERT will be refused with, or the row it will
  store, with the user in canonical form.
-/
def checkInsert
    (tables : Tables)
    (row : NewIdentity) :
    Except SqlError NewIdentity :=
  if validText row.provider &&
      validText row.providerSubject &&
      row.providerEmail.all validText &&
      row.providerEmailVerified.isSome then
    match uuidIn row.kisUserId with
    | none => .error .invalidText
    | some kisUserId =>
        if tables.conflicts { row with kisUserId } then
          .error .uniqueViolation
        else
          .ok { row with kisUserId }
  else
    .error .invalidText

/- The stored row of an accepted INSERT. -/
def newRow
    (row : NewIdentity)
    (id : String)
    (now : Nat) : AuthIdentityRow where
  id := id
  provider := row.provider
  providerSubject := row.providerSubject
  kisUserId := row.kisUserId
  providerEmail := row.providerEmail
  providerEmailVerified :=
    row.providerEmailVerified.getD false
  status := .active
  lastAuthenticatedAt := some now

def addRow
    (tables : Tables)
    (row : AuthIdentityRow) : Tables where
  identities := tables.identities ++ [row]
  clients := tables.clients

/- Change the rows with one uuid. -/
def modifyRow
    (tables : Tables)
    (id : String)
    (change : AuthIdentityRow → AuthIdentityRow) :
    Tables where
  identities := tables.identities.map (fun row =>
    if row.id = id then change row else row)
  clients := tables.clients

/- New e-mail fields and a new time of authentication. -/
def withEmail
    (providerEmail : Option String)
    (providerEmailVerified : Bool)
    (now : Nat)
    (row : AuthIdentityRow) : AuthIdentityRow :=
  { row with
    providerEmail := providerEmail
    providerEmailVerified := providerEmailVerified
    lastAuthenticatedAt := some now }

/- A new time of authentication. -/
def touched
    (now : Nat)
    (row : AuthIdentityRow) : AuthIdentityRow :=
  { row with lastAuthenticatedAt := some now }

/- A new status, set by an operator. -/
def withStatus
    (status : IdentityStatus)
    (row : AuthIdentityRow) : AuthIdentityRow :=
  { row with status := status }

end Tables

end KisAuth
