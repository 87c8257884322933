import BrowserPods.Failure
import BrowserPods.Files.Tree
import BrowserPods.Yaml.Plain

/-!
Access data of clusters, as they are kept in a file: clusters, users, and contexts that name one of
each.  The current context says which cluster is meant.
-/

namespace BrowserPods

open BrowserPods.Text
open BrowserPods.Yaml

/-- How a cluster is reached, and by which namespace unless another one is set. -/
structure Access where
  server : String
  namespaceName : String
deriving DecidableEq, Repr

namespace Access

/-! ## The parts of the file -/

structure ClusterEntry where
  server : Option String
  authorityFile : Option String
  authorityData : Option String

/-- How a user proves who it is. -/
structure UserEntry where
  hasPassword : Bool
  hasToken : Bool
  tokenFile : Option String
  /-- Whether the proof comes from another program or service. -/
  asksElsewhere : Bool

structure ContextEntry where
  cluster : String
  user : String
  namespaceName : Option String

structure Kubeconfig where
  currentContext : Option String := none
  kind : Option String := none
  apiVersion : Option String := none
  clusters : List (String × Option ClusterEntry) := []
  users : List (String × Option UserEntry) := []
  contexts : List (String × Option ContextEntry) := []

def areTexts (document : Document) (fields : List (String × Node)) (names : List String) : Bool :=
  names.all fun name => (document.field? fields name document.plainText?).isSome

def clusterOf? (document : Document) (node : Node) : Option ClusterEntry := do
  let fields ← document.fields? node
  let server ← document.field? fields "server" document.plainText?
  let authorityFile ← document.field? fields "certificate-authority" document.plainText?
  let authorityData ← document.field? fields "certificate-authority-data" document.plainText?
  let _ ← document.field? fields "insecure-skip-tls-verify" document.bool?
  if areTexts document fields ["proxy-url", "tls-server-name"] then
    pure { server, authorityFile, authorityData }
  else none

def userOf? (document : Document) (node : Node) : Option UserEntry := do
  let fields ← document.fields? node
  let username ← document.field? fields "username" document.plainText?
  let password ← document.field? fields "password" document.plainText?
  let token ← document.field? fields "token" document.plainText?
  let tokenFile ← document.field? fields "tokenFile" document.plainText?
  let exec ← document.field? fields "exec" document.fields?
  let provider ← document.field? fields "auth-provider" document.fields?
  let _ ← document.field? fields "as-groups" (document.list? document.plainText?)
  if areTexts document fields
      ["as", "client-certificate", "client-certificate-data", "client-key", "client-key-data"] then
    pure { hasPassword := username.isSome && password.isSome, hasToken := token.isSome, tokenFile
           asksElsewhere := exec.isSome || provider.isSome }
  else none

def contextOf? (document : Document) (node : Node) : Option ContextEntry := do
  let fields ← document.fields? node
  let cluster ← (fields.lookup "cluster").bind document.plainText?
  let user ← (fields.lookup "user").bind document.plainText?
  let namespaceName ← document.field? fields "namespace" document.plainText?
  pure { cluster, user, namespaceName }

/-- Reads a list of named entries; the field of the given name holds what is named. -/
def namedOf? {α : Type} (document : Document) (fields : List (String × Node))
    (list field : String) (read : Node → Option α) : Option (List (String × Option α)) := do
  let entries ← document.field? fields list (document.list? fun node => do
    let own ← document.fields? node
    let name ← (own.lookup "name").bind document.plainText?
    let value ← document.field? own field read
    pure (name, value))
  pure (entries.getD [])

def documentOf? (document : Document) : Option Kubeconfig := do
  let fields ← (document.optional? document.fields? document.root).map (·.getD [])
  let currentContext ← document.field? fields "current-context" document.plainText?
  let kind ← document.field? fields "kind" document.plainText?
  let apiVersion ← document.field? fields "apiVersion" document.plainText?
  let clusters ← namedOf? document fields "clusters" "cluster" (clusterOf? document)
  let users ← namedOf? document fields "users" "user" (userOf? document)
  let contexts ← namedOf? document fields "contexts" "context" (contextOf? document)
  if document.hasDistinctKeys document.root then
    pure { currentContext, kind, apiVersion, clusters, users, contexts }
  else none

/-- Whether two marks do not contradict each other. -/
def agree (first second : Option String) : Bool :=
  first.isNone || second.isNone || first == second

/-- Adds the contents of a further document; what is there already wins. -/
def merge? (first second : Kubeconfig) : Option Kubeconfig :=
  if agree first.kind second.kind && agree first.apiVersion second.apiVersion then
    some
      { currentContext := first.currentContext.or second.currentContext
        kind := first.kind
        apiVersion := first.apiVersion
        clusters := first.clusters ++ second.clusters
        users := first.users ++ second.users
        contexts := first.contexts ++ second.contexts }
  else none

def read? (text : String) : Option Kubeconfig := do
  let documents ← Document.ofText? text
  let parts ← documents.mapM documentOf?
  match parts with
  | [] => pure {}
  | first :: rest => rest.foldlM merge? first

/-! ## Choosing the cluster -/

def isAddress (server : String) : Bool :=
  server ≠ "" && server.toList.all fun c =>
    0x21 ≤ c.toNat && c.toNat ≤ 0x7e && !(['"', '<', '>', '\\', '^', '|'].contains c)

def isBase64 (text : String) : Bool :=
  let cs := text.toList
  let body := (cs.reverse.dropWhile (· = '=')).reverse
  let isDigit (c : Char) : Bool :=
    ('a' ≤ c && c ≤ 'z') || ('A' ≤ c && c ≤ 'Z') || ('0' ≤ c && c ≤ '9') || c == '+' || c == '/'
  cs.length % 4 == 0 && cs.length ≤ body.length + 2 && body.all isDigit

/-- A path of the file, which is relative to the directory that the file is in. -/
def beside (path : Path) (written : String) : Path :=
  match path.parent? with
  | some dir => dir.join (Path.ofText written)
  | none => Path.ofText written

/-- Whether the certificate of a cluster can be read, if there is one. -/
def hasCertificate (tree : FileTree) (path : Path) (entry : ClusterEntry) : Bool :=
  match entry.authorityData, entry.authorityFile with
  | some data, _ => isBase64 data
  | none, some file => (tree.readFile (beside path file)).isOk
  | none, none => true

def provesIdentity (tree : FileTree) (path : Path) (user : UserEntry) : Bool :=
  if user.hasPassword || user.hasToken then true
  else
    match user.tokenFile with
    | some file => (tree.readFile (beside path file)).isOk
    | none => !user.asksElsewhere

/-- The text of a file, without the mark of its encoding. -/
def fileText? (tree : FileTree) (path : Path) : Option String :=
  match tree.readFile path with
  | .ok (0xef :: 0xbb :: 0xbf :: rest) => Utf8.decode? rest
  | .ok bytes => Utf8.decode? bytes
  | .error _ => none

def relatedPaths (tree : FileTree) (path : Path) : List Path :=
  match (fileText? tree path).bind read? with
  | none => []
  | some config =>
    let authorities := config.clusters.filterMap fun (_, entry) => entry.bind (·.authorityFile)
    let tokens := config.users.filterMap fun (_, entry) => entry.bind (·.tokenFile)
    (authorities ++ tokens).map (beside path)

def defaultNamespace : String := "default"

/-- The cluster of the current context with its user. -/
def choose? (tree : FileTree) (path : Path) (config : Kubeconfig) :
    Option (Access × UserEntry) := do
  let name ← config.currentContext
  let context ← (← config.contexts.lookup name)
  let cluster ← (← config.clusters.lookup context.cluster)
  let user ← (← config.users.lookup context.user)
  let server ← cluster.server
  if isAddress server && hasCertificate tree path cluster then
    pure ({ server, namespaceName := context.namespaceName.getD defaultNamespace }, user)
  else none

/-- The access data in a file; without a file there are none. -/
def load (tree : FileTree) : Option String → Except ConnectionError Access
  | none => .error .noClient
  | some written =>
    let path := Path.ofText written
    match (fileText? tree path).bind read? with
    | none => .error (.unreadableKubeconfig written)
    | some config =>
      match choose? tree path config with
      | none => .error (.unusableKubeconfig written)
      | some (access, user) =>
        if provesIdentity tree path user then .ok access else .error .noClientFromKubeconfig

end Access

end BrowserPods
