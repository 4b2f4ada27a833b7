import DashboardRefresh.Fetch.Document
import DashboardRefresh.Json.Template
import DashboardRefresh.Release.Entry
import DashboardRefresh.Release.Version
import DashboardRefresh.Time.Timestamp
import DashboardRefresh.Url.Segments

/-!
# Looking up releases

Each source has an API of its own: where it tells the latest release of a repository, what the
request has to carry, and how the answer is to be read. A token goes to its own source and to no
other.
-/

namespace DashboardRefresh

/-- The latest release of a repository. -/
structure Release where
  source : ReleaseSource
  repository : String
  version : String
  url : String
  publishedAt : Option Timestamp
  deriving DecidableEq

/-- Where the sources are looked up, and the tokens for them. -/
structure Endpoints where
  baseUrls : List (ReleaseSource × String)
  githubToken : Option String
  gitlabToken : Option String
  deriving DecidableEq

/-- The root of the API of a source. -/
def Endpoints.baseUrl (e : Endpoints) (source : ReleaseSource) : String :=
  (e.baseUrls.lookup source).getD source.defaultBaseUrl

/-- A URL below the root of an API. -/
def apiUrl (base : String) (segments : List String) : Except FetchError Url :=
  match Url.parse base with
  | .error e => .error (.request base e.message)
  | .ok url =>
    match url.append? segments with
    | some url => .ok url
    | none => .error (.request base "base URL cannot have a path")

/-! ## Answers -/

def timestamp? (j : Json) : Option Timestamp := do Timestamp.parse? (← j.text?)

/-- What is wanted of a release at GitHub or Codeberg. -/
def githubFields : List (String × Json.Template) :=
  [("tag_name", .value), ("html_url", .value), ("published_at", .value)]

/-- The tag, the page and the date of a release at GitHub or Codeberg. -/
def readGithub? (j : Json) : Option (String × String × Option Timestamp) := do
  match ← j.fieldsBy? githubFields with
  | [tag, page, date] =>
    return (← (← tag).text?, ← (← page).text?, ← Json.optional? timestamp? date)
  | _ => none

/-- What is wanted of the links of a release at GitLab. -/
def linkFields : List (String × Json.Template) := [("self", .value)]

/-- The page among the links of a release at GitLab. -/
def readLinks? (j : Json) : Option String := do
  match ← j.fieldsBy? linkFields with
  | [page] => (← page).text?
  | _ => none

/-- What is wanted of a release at GitLab. -/
def gitlabFields : List (String × Json.Template) :=
  [("tag_name", .value), ("released_at", .value), ("_links", .record linkFields)]

/-- The tag, the page and the date of a release at GitLab. -/
def readGitlab? (j : Json) : Option (String × String × Option Timestamp) := do
  match ← j.fieldsBy? gitlabFields with
  | [tag, date, links] =>
    return (← (← tag).text?, ← readLinks? (← links), ← Json.optional? timestamp? date)
  | _ => none

/-- What is wanted of a tag at Docker Hub. -/
def tagFields : List (String × Json.Template) := [("name", .value), ("tag_last_pushed", .value)]

/-- The name of a tag at Docker Hub, and when it was pushed. -/
def readTag? (j : Json) : Option (String × Option Timestamp) := do
  match ← j.fieldsBy? tagFields with
  | [name, date] => return (← (← name).text?, ← Json.optional? timestamp? date)
  | _ => none

/-- What is wanted of the tags of an image at Docker Hub. -/
def imageFields : List (String × Json.Template) := [("results", .listOf (.record tagFields))]

/-- The tags of an image at Docker Hub. -/
def readTags? (j : Json) : Option (List (String × Option Timestamp)) := do
  match ← j.fieldsBy? imageFields with
  | [results] =>
    match ← results with
    | .list items => items.mapM readTag?
    | _ => none
  | _ => none

/-- Read a text by the fields that are wanted of it. -/
def readRecord? {α : Type} (fields : List (String × Json.Template)) (read : Json → Option α)
    (text : String) : Option α :=
  (Json.readAs? (.record fields) text).bind read

/-! ## Images at Docker Hub -/

/-- An image, as the path of an entry names it. -/
structure Image where
  space : String
  name : String
  /-- The tag that is asked for; without it, the newest. -/
  tag : Option String
  deriving DecidableEq

namespace Image

/-- Images without a namespace belong to the library. -/
def ofRepository (repository : String) : Image :=
  let (space, image) := (Text.cut? '/' repository).getD ("library", repository)
  match Text.cut? ':' image with
  | some (name, tag) => ⟨space, name, some tag⟩
  | none => ⟨space, image, none⟩

def segments (i : Image) : List String :=
  ["v2", "namespaces", i.space, "repositories", i.name, "tags"] ++ i.tag.toList

/-- The release that a tag of an image is. -/
def release (i : Image) (tag : String) (date : Option Timestamp) : Release :=
  let page (path : String) : String := "https://hub.docker.com/" ++ path ++ "/tags?name=" ++ tag
  if i.space = "library" then ⟨.dockerhub, i.name, tag, page ("_/" ++ i.name), date⟩
  else
    let name := i.space ++ "/" ++ i.name
    ⟨.dockerhub, name, tag, page ("r/" ++ name), date⟩

end Image

/-! ## Requests -/

namespace ReleaseEntry

/-- The owner and the name of a repository. -/
def ownerAndName (e : ReleaseEntry) : String × String :=
  (Text.cut? '/' e.repository).getD (e.repository, "")

/-- The path to the latest release of an entry, below the root of its API. -/
def segments (e : ReleaseEntry) : List String :=
  let (owner, name) := e.ownerAndName
  match e.source with
  | .github => ["repos", owner, name, "releases", "latest"]
  | .codeberg => ["api", "v1", "repos", owner, name, "releases", "latest"]
  | .gitlab => ["api", "v4", "projects", e.repository, "releases", "permalink", "latest"]
  | .dockerhub => (Image.ofRepository e.repository).segments

/-- Give a request the headers of its source. -/
def addHeaders (e : ReleaseEntry) (endpoints : Endpoints) (r : Request) :
    Except BuildError Request := do
  match e.source, endpoints.githubToken, endpoints.gitlabToken with
  | .github, some token, _ =>
    (← r.addHeader "Accept" "application/json").addHeader "Authorization" ("Bearer " ++ token)
  | .github, none, _ | .codeberg, _, _ => r.addHeader "Accept" "application/json"
  | .gitlab, _, some token => r.addAsciiHeader "PRIVATE-TOKEN" token
  | .gitlab, _, none | .dockerhub, _, _ => .ok r

/-- The request for the latest release at a URL. -/
def request (e : ReleaseEntry) (endpoints : Endpoints) (timeout : Duration) (url : Url) :
    Except BuildError Request := do
  e.addHeaders endpoints (← Request.ofUrl .get url timeout)

/-- The release with a tag, a page and a date. -/
def release (e : ReleaseEntry) (tag page : String) (date : Option Timestamp) : Release :=
  ⟨e.source, e.repository, versionOfTag tag, page, date⟩

/-- The release of an image that its newest tag is. -/
def newest (i : Image) (url : Url) :
    List (String × Option Timestamp) → Except FetchError Release
  | [] => .error (.noContent ("no tags found for " ++ url.text))
  | (tag, date) :: _ => .ok (i.release tag date)

/-- Look up the latest release of an entry. -/
def lookup (e : ReleaseEntry) (endpoints : Endpoints) (network : Network) (timeout : Duration) :
    Attempt (Except FetchError Release) :=
  match apiUrl (endpoints.baseUrl e.source) e.segments with
  | .error error => .offline (.error error)
  | .ok url =>
    let request := e.request endpoints timeout url
    match e.source with
    | .github | .codeberg =>
      (fetchDocument network (readRecord? githubFields readGithub?) request).map fun r =>
        r.map fun (tag, page, date) => e.release tag page date
    | .gitlab =>
      (fetchDocument network (readRecord? gitlabFields readGitlab?) request).map fun r =>
        r.map fun (tag, page, date) => e.release tag page date
    | .dockerhub =>
      let image := Image.ofRepository e.repository
      if image.tag.isSome then
        (fetchDocument network (readRecord? tagFields readTag?) request).map fun r =>
          r.map fun (tag, date) => image.release tag date
      else
        (fetchDocument network (readRecord? imageFields readTags?) request).map fun r =>
          r.bind (newest image url)

end ReleaseEntry

end DashboardRefresh
