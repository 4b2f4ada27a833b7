import DashboardRefresh.Release.Source
import DashboardRefresh.Text.Split

/-!
# Repository entries

An entry of a releases widget names a repository as `[source:]path`, where the source is `github`
when none is named. What a path may look like depends on the source.
-/

namespace DashboardRefresh

/-- A repository at a release source. -/
structure ReleaseEntry where
  source : ReleaseSource
  repository : String
  deriving DecidableEq

/-- A text that names no repository: the text and the source it would be looked up at. -/
structure EntryError where
  text : String
  source : ReleaseSource
  deriving DecidableEq

def EntryError.message (e : EntryError) : String :=
  "repository `" ++ e.text ++ "` is not a valid " ++ e.source.name ++ " repository"

namespace ReleaseEntry

/-- Whether a path is one of the source: two segments at GitHub and Codeberg, two or more at
GitLab, one or two at Docker Hub, none of them empty. -/
def accepts (source : ReleaseSource) (path : List Char) : Bool :=
  let segments := Text.splitChars '/' path
  !segments.contains [] &&
    match source with
    | .github | .codeberg => segments.length == 2 && !path.contains ':'
    | .gitlab => 2 ≤ segments.length
    | .dockerhub => segments.length ≤ 2

/-- The source that a text names and the path that follows it. A prefix that is no source is part
of the path. -/
def sourceAndPath (text : String) : ReleaseSource × String :=
  match Text.cut? ':' text with
  | some (before, after) =>
    match ReleaseSource.ofName? before with
    | some source => (source, after)
    | none => (.github, text)
  | none => (.github, text)

/-- Read an entry. -/
def parse (text : String) : Except EntryError ReleaseEntry :=
  let (source, path) := sourceAndPath text
  if accepts source path.toList then .ok ⟨source, path⟩ else .error ⟨text, source⟩

end ReleaseEntry

end DashboardRefresh
