import EntityProvider.Kube.Object

/-!
# The Kubernetes API, as the client library presents it

`ApiResource` and the resource URL the library derives from it, the requests for
one object, and an API server that answers them.  The client library is outside
the repository; a `KubeApi` stands for one client and server, and its two fields
are the only things the code learns from them.
-/

namespace EntityProvider.Kube

/-- `kube::core::ApiResource`: what is needed to address objects of one kind. -/
structure ApiResource where
  /-- Resource group, empty for the core group. -/
  group : String
  version : String
  /-- `version` for the core group, `group/version` for the others. -/
  apiVersion : String
  kind : String
  plural : String
  deriving DecidableEq, Repr

/-- `kube::discovery::Scope`: objects of a resource are in namespaces, or are not. -/
inductive Scope where
  | cluster
  | namespaced
  deriving DecidableEq, Repr

/-- The `apiVersion` of a group and a version; for the core group it is the version alone. -/
def groupVersion (group version : String) : String :=
  if group = "" then version else group ++ "/" ++ version

/-- The `apiVersion` of the resource is the one of its group and version, as it is unless the
server lists the resource with a group or version of its own. -/
def ApiResource.Coherent (ar : ApiResource) : Prop :=
  ar.apiVersion = groupVersion ar.group ar.version

/-- `Resource::url_path`: `/api/{version}/` or `/apis/{group}/{version}/`, an
optional `namespaces/{ns}/`, and the plural. -/
def urlPath (ar : ApiResource) (ns : Option String) : String :=
  (if ar.group = "" then "/api/" else "/apis/") ++ ar.apiVersion ++ "/" ++
    (match ns with
      | some n => "namespaces/" ++ n ++ "/"
      | none => "") ++ ar.plural

/-- `Api<DynamicObject>`: a resource, in one namespace or in all of them. -/
structure Api where
  resource : ApiResource
  ns : Option String
  deriving DecidableEq, Repr

/-- `Api::all_with`: the resource in all namespaces, or outside of them. -/
def Api.allWith (ar : ApiResource) : Api := ⟨ar, none⟩

/-- `Api::namespaced_with`: the resource in one namespace. -/
def Api.namespacedWith (ns : String) (ar : ApiResource) : Api := ⟨ar, some ns⟩

/-- `Api::resource_url`: the URL that lists the objects, which a watch keeps to tell where
they are from. -/
def Api.resourceUrl (api : Api) : String := urlPath api.resource api.ns

/-- What the path of a `GET` for one object is made of: the resource URL of its namespace, and
its name. -/
structure ObjectPath where
  group : String
  apiVersion : String
  plural : String
  ns : Option String
  name : String
  deriving DecidableEq, Repr

/-- `Api::get_opt(name)`: the path it asks for. -/
def Api.getPath (api : Api) (name : String) : ObjectPath where
  group := api.resource.group
  apiVersion := api.resource.apiVersion
  plural := api.resource.plural
  ns := api.ns
  name := name

/-- What `get_opt` returns: `Ok(Some(_))`, `Ok(None)` or `Err(_)`. -/
inductive GetAnswer where
  | found
  | missing
  | failed
  deriving DecidableEq, Repr

/-- A client together with the server behind it, for one round of requests.  The answer may
only depend on the path that is asked for. -/
structure KubeApi where
  /-- Whether the client can be obtained at all; without it nothing is asked. -/
  connects : Bool
  /-- The answer to a `GET` for one object. -/
  getOpt : ObjectPath → GetAnswer

end EntityProvider.Kube
