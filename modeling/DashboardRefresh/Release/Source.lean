/-!
# Release sources

The services that releases are looked up at.
-/

namespace DashboardRefresh

inductive ReleaseSource where
  | github
  | gitlab
  | codeberg
  | dockerhub
  deriving DecidableEq

namespace ReleaseSource

def all : List ReleaseSource := [github, gitlab, codeberg, dockerhub]

def name : ReleaseSource → String
  | github => "github"
  | gitlab => "gitlab"
  | codeberg => "codeberg"
  | dockerhub => "dockerhub"

/-- The root of the service's API where none is configured. -/
def defaultBaseUrl : ReleaseSource → String
  | github => "https://api.github.com"
  | gitlab => "https://gitlab.com"
  | codeberg => "https://codeberg.org"
  | dockerhub => "https://hub.docker.com"

def ofName? (name : String) : Option ReleaseSource := all.find? (·.name = name)

@[simp] theorem ofName?_name (source : ReleaseSource) : ofName? source.name = some source := by
  cases source <;> rfl

theorem ofName?_eq_some {name : String} {source : ReleaseSource} :
    ofName? name = some source ↔ name = source.name := by
  constructor
  · intro h
    have := List.find?_some h
    exact (by simpa using this : source.name = name).symm
  · rintro rfl
    exact ofName?_name source

end ReleaseSource

end DashboardRefresh
