/-
# The portfolio's file tree

The directories and files that the terminal serves.
-/
import PortfolioTerminal.Content
import PortfolioTerminal.FileTree

namespace PortfolioTerminal.FileTree

/-- The projects of the owner. -/
def projectFiles : List Node :=
  [
    .file "university-collaboration.md" <|
      "# University Collaboration\n\n" ++
      "Research data platform built with three university partners.\n" ++
      "Ingests lab instrument output, versions datasets and exposes\n" ++
      "reproducible query notebooks to students.\n\n" ++
      "Stack: Rust, PostgreSQL, Arrow",
    .file "intra-enterprise.md" <|
      "# Intra Enterprise\n\n" ++
      "Internal developer portal for a 4,000 person organisation.\n" ++
      "Service catalogue, ownership tracking and on-call tooling.\n\n" ++
      "Stack: TypeScript, Go, Kubernetes"
  ]

/-- The positions that the owner has held. -/
def experienceFiles : List Node :=
  [
    .file "current.md" <|
      "# Staff Engineer, Platform (2022 - present)\n\n" ++
      "Leading the data platform team.",
    .file "previous.md" <|
      "# Software Engineer (2017 - 2022)\n\n" ++
      "Backend services, build tooling and observability."
  ]

/-- The posts of the blog. -/
def blogFiles : List Node :=
  [
    .file "hello-world.md" "# Hello, world\n\nWhy this site is a terminal.",
    .file "ownership.md" <|
      "# Ownership without tears\n\n" ++
      "Notes from teaching Rust to a backend team."
  ]

/-- The tree that a fresh shell serves. -/
def portfolio : FileTree :=
  ⟨[
    .directory "projects" projectFiles,
    .directory "experience" experienceFiles,
    .directory "blog" blogFiles,
    .file "about.txt" Content.about,
    .file "contact.txt" "Email: hello@alexmorgan.dev\nGitHub: github.com/alexmorgan",
    .file "skills.txt" <|
      "Languages: Rust, Go, TypeScript, Python, SQL\n" ++
      "Infrastructure: Kubernetes, Terraform, PostgreSQL, Kafka\n" ++
      "Practices: API design, observability, mentoring"
  ]⟩

end PortfolioTerminal.FileTree
