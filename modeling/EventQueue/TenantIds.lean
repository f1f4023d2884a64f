import Mathlib.Data.List.Basic

/-! The tenants an instance works for: the callbacks of the configuration that accept or refuse a tenant, and
`getAllTenantIds` of `shared/cdsHelper.js`. -/
namespace EventQueue.TenantIds

/-- A callback of the configuration; none if it throws. The tenant may be missing. -/
abbrev TenantFilter := Option String → Option Bool

inductive TenantIdCheckTypes
  | getAuthContext
  | eventProcessing

structure Filters where
  tenantIdFilterAuthContext : Option TenantFilter
  tenantIdFilterEventProcessing : Option TenantFilter

def Filters.callback (filters : Filters) : TenantIdCheckTypes → Option TenantFilter
  | .getAuthContext => filters.tenantIdFilterAuthContext
  | .eventProcessing => filters.tenantIdFilterEventProcessing

/-- A callback that fails accepts the tenant. -/
def isTenantIdValidCb (filters : Filters) (checkType : TenantIdCheckTypes) (tenantId : Option String) : Bool :=
  match filters.callback checkType with
  | none => true
  | some cb => (cb tenantId).getD true

/-- An item of the answer of the provisioning service. -/
structure Tenant where
  subscribedTenantId : Option String
  tenant : String

def Tenant.id (tenant : Tenant) : String := tenant.subscribedTenantId.getD tenant.tenant

/-- `suspended` tells whether the request of the tenant's authentication context was answered with a 404. Without
multi tenancy there is no answer. -/
def getAllTenantIds (filters : Filters) (disableProcessingOfSuspendedTenants : Bool) (suspended : String → Bool)
    (response : Option (List Tenant)) : Option (List String) :=
  response.map (fun tenants => (tenants.map Tenant.id).filter (fun tenantId =>
    !(disableProcessingOfSuspendedTenants && suspended tenantId) &&
      isTenantIdValidCb filters .eventProcessing (some tenantId)))

end EventQueue.TenantIds
