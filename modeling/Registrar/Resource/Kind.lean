import Registrar.Catalog

/-!
The four kinds of records: users, tenants, roles and permissions.
-/

namespace Registrar

inductive ResourceKind where
  | user
  | tenant
  | role
  | permission
deriving DecidableEq, Repr

namespace ResourceKind

def all : List ResourceKind :=
  [.user, .tenant, .role, .permission]

def name : ResourceKind → String
  | .user => "user"
  | .tenant => "tenant"
  | .role => "role"
  | .permission => "permission"

def codeWord : ResourceKind → String
  | .user => "USER"
  | .tenant => "TENANT"
  | .role => "ROLE"
  | .permission => "PERMISSION"

def typeWord : ResourceKind → String
  | .user => "User"
  | .tenant => "Tenant"
  | .role => "Role"
  | .permission => "Permission"

/-- The path segment of the kind, which is also the name of its table. -/
def collection : ResourceKind → String
  | .user => "users"
  | .tenant => "tenants"
  | .role => "roles"
  | .permission => "permissions"

def ofCollection? (collection : String) : Option ResourceKind :=
  all.find? (·.collection = collection)

def idField : ResourceKind → String
  | .user => "userId"
  | .tenant => "tenantId"
  | .role => "roleId"
  | .permission => "permissionId"

/-- The field that names a record: the email of a user, the name of all others. -/
def labelField : ResourceKind → String
  | .user => "email"
  | _ => "name"

def describes : ResourceKind → Bool
  | .user => false
  | .tenant => false
  | .role => true
  | .permission => true

def catalog (kind : ResourceKind) : Catalog :=
  ((((Catalog.ofIdentifier (.identifier kind.idField)).addField (.text kind.labelField)).addField
    (.instant "createdAt")).addSearched kind.idField).addSearched kind.labelField

end ResourceKind

end Registrar
