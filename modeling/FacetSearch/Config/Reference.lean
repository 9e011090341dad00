import FacetSearch.Schema.Registration
/-!
# Reference domains

The two domains that are served when no configuration declares any.
-/

namespace FacetSearch.Config

open Schema

def profileFields : List String :=
  ["firstname", "lastname", "avatar", "professional_title", "primary_skills.name", "user_type",
   "speciality"]

def profileRelevance : List String :=
  ["firstname", "professional_title", "primary_skills.name", "speciality"]

def profileSorts : List SortOption := [
  ⟨"relevance", "Relevance", [⟨"_score", .descending⟩], true⟩,
  ⟨"released", "Released", [⟨"released", .descending⟩], false⟩]

/-- A single-select facet over a field, backed by its own filter. -/
def plainFacet (identifier field label : String) : Facet :=
  ⟨identifier, field, label, false, none, .refinement defaultFacetSize⟩

def resultSet : Declaration where
  names := ⟨"ResultSet", "ResultHit", none⟩
  draft := {
    index := "freelancers"
    returnedFields := ["id", "publicId"] ++ profileFields
    relevanceFields := profileRelevance
    sortOptions := profileSorts
    filters := [.valueTag defaultTagField]
    facets := []
  }

def jobResultSet : Declaration where
  names := ⟨"JobResultSet", "JobResultHit", none⟩
  draft := {
    index := "freelancers"
    returnedFields := profileFields
    relevanceFields := profileRelevance
    sortOptions := profileSorts
    filters := [
      .valueTag defaultTagField,
      .term "total_earning" "total_earning" "Earning" true false,
      .term "specialty" "specialty" "Specialty" true false]
    facets := [
      plainFacet "country" "country.keyword" "Location",
      plainFacet "skills_collection" "skills_collection.keyword" "Skills",
      plainFacet "experience" "experience.keyword" "Experience",
      plainFacet "language" "language.language.keyword" "Language",
      plainFacet "reviews" "reviews.total_reviews" "Reviews"]
  }

def referenceDomains : List Declaration := [resultSet, jobResultSet]

end FacetSearch.Config
