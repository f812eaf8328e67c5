import Bulletin.Template.Draft

namespace Bulletin.Template

def default : String :=
  r##"
# Release Notes Composer Guide
# This file drives the automated release created for your repository.
#
# The following placeholders are available:
# ${COMMIT_HASH}        - The commit hash of the release
# ${REPO_NAME}          - The name of the repository
# ${CONTRIBUTORS_SINCE} - Number of contributors since the last release
# ${WHATS_CHANGED_URL}  - URL to the commit history for this release
# ${README_MD}          - Contents of README.md (auto-included)
# ${CHANGELOG_MD}       - Contents of CHANGELOG.md (auto-included)
#
# Notes:
# 1. Placeholders are case-sensitive.
# 2. Only the first TITLE, DESCRIPTION and TAG are used.
# 3. Each section (TITLE, DESCRIPTION, TAG) must end with "//ASYNC_END".
#
# Example:
#
# TITLE: Release ${COMMIT_HASH}//ASYNC_END
# DESCRIPTION: Release Notes ${CHANGELOG_MD}//ASYNC_END
# TAG: v${COMMIT_HASH}//ASYNC_END

# A TAG must not contain spaces.

TITLE: ${REPO_NAME} Release ${COMMIT_HASH}//ASYNC_END
DESCRIPTION: The latest build of ${REPO_NAME}, packaged and ready to use. A quick look at the readme:\n${README_MD}
``PLEASE NOTE:``
This release was published automatically by the build pipeline.
COMMIT ID: ${COMMIT_HASH}
REPO: ${REPO_NAME}
CONTRIBUTORS: ${CONTRIBUTORS_SINCE}
WHAT'S CHANGED: ${WHATS_CHANGED_URL}//ASYNC_END
TAG: v${COMMIT_HASH}_AUTO//ASYNC_END
"##

def defaultRelease : Release :=
  release default

end Bulletin.Template
